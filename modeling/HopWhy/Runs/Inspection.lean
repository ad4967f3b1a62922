import HopWhy.Runs.Http
import HopWhy.Runs.Orchestration

/-!
# Effects of whole inspections

The effects of the four live stages in the order in which the orchestration
calls them, and what the final draft keeps of the HTTP stage.
-/

namespace HopWhy

section

variable {σ : Type} [Clock σ] (backend : DiagnosticBackend σ)

/-- Resolution and connection: the endpoint of the first hop. -/
def observeEndpoint [Crates] (proxy : ResolvedProxy) (draft : Draft) :
    Observe σ (Draft × SocketAddr) :=
  observeDns backend proxy draft >>= fun (draft, permitted) => observeTcp backend permitted draft

theorem observeAll_eq [Crates] (parsed : ParsedTarget) (proxy : ResolvedProxy) (draft : Draft) :
    observeAll backend parsed proxy draft =
      observeEndpoint backend proxy draft >>= fun (draft, address) =>
        observeTls backend parsed proxy address draft >>= fun draft =>
          observeHttp backend parsed proxy address draft := by
  rw [observeEndpoint, Prog.bind_assoc]
  rfl

end

/-- The draft still has the options and the hops of the draft it comes from. -/
structure Draft.Keeps (draft d : Draft) : Prop where
  options : d.options = draft.options
  http : d.http = draft.http

theorem Draft.Keeps.trans {a b c : Draft} (h : a.Keeps b) (k : b.Keeps c) : a.Keeps c :=
  ⟨k.options.trans h.options, k.http.trans h.http⟩

variable [Crates] {env : Environment}

/-- The effects of resolution and connection, and the endpoint they lead to. -/
inductive ReachEffect (options : InspectionOptions) (proxy : ResolvedProxy) :
    Effect → Option SocketAddr → Prop
  | unresolved {e : Effect} {error : AppError}
      (lookup : LookupEffect options (destinationOf proxy) e (.error error)) :
      ReachEffect options proxy e none
  | denied {e : Effect} {all : List SocketAddr}
      (lookup : LookupEffect options (destinationOf proxy) e (.ok (all, []))) :
      ReachEffect options proxy e none
  | attempted {e₁ e₂ : Effect} {all permitted : List SocketAddr} {r : AppResult SocketAddr}
      (lookup : LookupEffect options (destinationOf proxy) e₁ (.ok (all, permitted)))
      (connect : ConnectEffect options (permitted.take options.maxAddresses.toNat) e₂ r) :
      ReachEffect options proxy (e₁ ++ e₂) r.toOption

theorem observeDns_effect (proxy : ResolvedProxy) (draft : Draft) (s : Session (World env)) :
    ∃ e r, Leads s e (observeDns (liveBackend env) proxy draft s).2 ∧
      LookupEffect draft.options (destinationOf proxy) e r ∧
      ((∃ d, (observeDns (liveBackend env) proxy draft s).1 = .error d ∧ draft.Keeps d ∧
          ((∃ error, r = .error error) ∨ ∃ all, r = .ok (all, []))) ∨
        ∃ all permitted d, (observeDns (liveBackend env) proxy draft s).1 = .ok (d, permitted) ∧
          draft.Keeps d ∧ r = .ok (all, permitted)) := by
  unfold observeDns
  rw [instant_bind, Prog.bind_apply, Prog.attempt_apply]
  obtain ⟨e, hleads, hlookup⟩ := resolveAddresses_effect proxy draft.options s.tick
  change Leads s.tick e ((liveBackend env).resolveAddresses proxy draft.options s.tick).2 at hleads
  change LookupEffect _ _ e ((liveBackend env).resolveAddresses proxy draft.options s.tick).1
    at hlookup
  -- Every branch ends with a last reading of the clock.
  have hleads := ((leads_tick s).trans hleads).trans (leads_tick _)
  rw [Effect.none_append, Effect.append_none] at hleads
  rcases hr : (liveBackend env).resolveAddresses proxy draft.options s.tick with
    ⟨error | ⟨all, permitted⟩, t⟩
  · rw [hr] at hleads hlookup
    exact ⟨e, _, hleads, hlookup, Or.inl ⟨_, rfl, ⟨rfl, rfl⟩, Or.inl ⟨error, rfl⟩⟩⟩
  · rw [hr] at hleads hlookup
    dsimp only
    split_ifs with hempty
    · exact ⟨e, _, hleads, hlookup, Or.inl ⟨_, rfl, ⟨rfl, rfl⟩, Or.inr ⟨all, by rw [hempty]⟩⟩⟩
    · exact ⟨e, _, hleads, hlookup, Or.inr ⟨all, permitted, _, rfl, ⟨rfl, rfl⟩, rfl⟩⟩

theorem observeTcp_effect (permitted : List SocketAddr) (draft : Draft)
    (s : Session (World env)) :
    ∃ e r, Leads s e (observeTcp (liveBackend env) permitted draft s).2 ∧
      ConnectEffect draft.options (permitted.take draft.options.maxAddresses.toNat) e r ∧
      ((∃ d, (observeTcp (liveBackend env) permitted draft s).1 = .error d ∧ draft.Keeps d ∧
          r.toOption = none) ∨
        ∃ d address, (observeTcp (liveBackend env) permitted draft s).1 = .ok (d, address) ∧
          draft.Keeps d ∧ r.toOption = some address) := by
  unfold observeTcp
  rw [instant_bind, Prog.bind_apply, Prog.attempt_apply]
  obtain ⟨e, hleads, hconnect⟩ := connectFirst_effect permitted draft.options s.tick
  change Leads s.tick e ((liveBackend env).connectFirst permitted draft.options s.tick).2 at hleads
  change ConnectEffect _ _ e ((liveBackend env).connectFirst permitted draft.options s.tick).1
    at hconnect
  have hleads := ((leads_tick s).trans hleads).trans (leads_tick _)
  rw [Effect.none_append, Effect.append_none] at hleads
  rcases hr : (liveBackend env).connectFirst permitted draft.options s.tick with
    ⟨error | address, t⟩
  · rw [hr] at hleads hconnect
    exact ⟨e, _, hleads, hconnect, Or.inl ⟨_, rfl, ⟨rfl, rfl⟩, rfl⟩⟩
  · rw [hr] at hleads hconnect
    exact ⟨e, _, hleads, hconnect, Or.inr ⟨_, address, rfl, ⟨rfl, rfl⟩, rfl⟩⟩

theorem observeEndpoint_effect (proxy : ResolvedProxy) (draft : Draft)
    (s : Session (World env)) :
    ∃ e r, Leads s e (observeEndpoint (liveBackend env) proxy draft s).2 ∧
      ReachEffect draft.options proxy e r ∧
      ((∃ d, (observeEndpoint (liveBackend env) proxy draft s).1 = .error d ∧ draft.Keeps d ∧
          r = none) ∨
        ∃ d address, (observeEndpoint (liveBackend env) proxy draft s).1 = .ok (d, address) ∧
          draft.Keeps d ∧ r = some address) := by
  unfold observeEndpoint
  obtain ⟨e₁, r₁, hleads₁, hlookup, ⟨d, hd, hkeeps, hr⟩ | ⟨all, permitted, d, hd, hkeeps, rfl⟩⟩ :=
    observeDns_effect proxy draft s
  · rw [Prog.bind_error (Prod.ext hd rfl)]
    refine ⟨e₁, none, hleads₁, ?_, Or.inl ⟨d, rfl, hkeeps, rfl⟩⟩
    rcases hr with ⟨error, rfl⟩ | ⟨all, rfl⟩
    · exact .unresolved hlookup
    · exact .denied hlookup
  · rw [Prog.bind_ok (Prod.ext hd rfl)]
    obtain ⟨e₂, r₂, hleads₂, hconnect, h⟩ :=
      observeTcp_effect permitted d (observeDns (liveBackend env) proxy draft s).2
    rw [hkeeps.options] at hconnect
    refine ⟨_, _, hleads₁.trans hleads₂, .attempted hlookup hconnect, ?_⟩
    rcases h with ⟨d', hd', hkeeps', hr⟩ | ⟨d', address, hd', hkeeps', hr⟩
    · exact Or.inl ⟨d', hd', hkeeps.trans hkeeps', hr⟩
    · exact Or.inr ⟨d', address, hd', hkeeps.trans hkeeps', hr⟩

/-- The effects of the TLS stage of a run that goes on to HTTP. -/
inductive SecureEffect (probed cut : Prop) (address : SocketAddr) (showAddresses : Bool) :
    Effect → Prop
  | unprobed (h : ¬ probed) : SecureEffect probed cut address showAddresses .none
  | validated (h : probed) {e : Effect} {summary : TlsSummary}
      (tls : TlsEffect cut address showAddresses e (.ok summary)) :
      SecureEffect probed cut address showAddresses e

theorem observeTls_effect (parsed : ParsedTarget) (proxy : ResolvedProxy) (address : SocketAddr)
    (draft : Draft) (s : Session (World env)) :
    ∃ e, Leads s e (observeTls (liveBackend env) parsed proxy address draft s).2 ∧
      ((∃ d, (observeTls (liveBackend env) parsed proxy address draft s).1 = .error d ∧
          draft.Keeps d ∧ TlsProbed parsed proxy ∧ ∃ error,
          TlsEffect (HandshakeCut env parsed.summary.host s.tick) address
            draft.options.showAddresses e (.error error)) ∨
        ∃ d, (observeTls (liveBackend env) parsed proxy address draft s).1 = .ok d ∧
          draft.Keeps d ∧ SecureEffect (TlsProbed parsed proxy)
            (HandshakeCut env parsed.summary.host s.tick) address
            draft.options.showAddresses e) := by
  unfold observeTls
  rw [instant_bind, Prog.ite_apply]
  split_ifs with hscheme hselected
  · exact ⟨.none, leads_tick s, Or.inr ⟨_, rfl, ⟨rfl, rfl⟩, .unprobed fun h => hscheme h.1⟩⟩
  · exact ⟨.none, leads_tick s,
      Or.inr ⟨_, rfl, ⟨rfl, rfl⟩, .unprobed fun h => by simp [h.2] at hselected⟩⟩
  · have hprobed : TlsProbed parsed proxy := ⟨not_not.mp hscheme, by simpa using hselected⟩
    rw [Prog.bind_apply, Prog.attempt_apply]
    obtain ⟨e, hleads, htls⟩ :=
      probeTls_effect address parsed.summary.host draft.options.showAddresses s.tick
    change Leads s.tick e ((liveBackend env).probeTls address parsed.summary.host
      draft.options.showAddresses s.tick).2 at hleads
    change TlsEffect _ _ _ e ((liveBackend env).probeTls address parsed.summary.host
      draft.options.showAddresses s.tick).1 at htls
    have hleads := ((leads_tick s).trans hleads).trans (leads_tick _)
    rw [Effect.none_append, Effect.append_none] at hleads
    rcases hr : (liveBackend env).probeTls address parsed.summary.host
      draft.options.showAddresses s.tick with ⟨error | summary, t⟩
    · rw [hr] at hleads htls
      exact ⟨e, hleads, Or.inl ⟨_, rfl, ⟨rfl, rfl⟩, hprobed, error, htls⟩⟩
    · rw [hr] at hleads htls
      exact ⟨e, hleads, Or.inr ⟨_, rfl, ⟨rfl, rfl⟩, .validated hprobed htls⟩⟩

/-- What the draft of a finished run says about its HTTP stage. -/
inductive Concluded : Option (AppResult HttpResult) → Draft → Prop
  | unrequested {d : Draft} (http : d.http = []) : Concluded none d
  | lost {error : AppError} {d : Draft} {front : List Phase} {durationMs : UInt64}
      (http : d.http = []) (phases : d.phases = front ++ [failedPhase .http durationMs error]) :
      Concluded (some (.error error)) d
  | reached {hops : List HttpHop} {failure : Option AppError} {d : Draft} {front : List Phase}
      {durationMs : UInt64} {observations : List Observation} {limitation : String}
      (http : d.http = hops)
      (phases : d.phases = front ++ [passedPhase .http durationMs observations,
        redirectPhase hops failure, skippedPhase .assertions limitation]) :
      Concluded (some (.ok (hops, failure))) d

theorem observeHttp_run (parsed : ParsedTarget) (proxy : ResolvedProxy) (address : SocketAddr)
    (draft : Draft) (hfresh : draft.http = []) (s : Session (World env)) :
    Concluded (some (runHttp parsed.url proxy address draft.options s.tick).1)
        (settle (observeHttp (liveBackend env) parsed proxy address draft s).1) ∧
      (observeHttp (liveBackend env) parsed proxy address draft s).2 =
        (runHttp parsed.url proxy address draft.options s.tick).2.tick := by
  unfold observeHttp
  rw [instant_bind, Prog.bind_apply, Prog.attempt_apply]
  change Concluded (some ((liveBackend env).runHttp parsed.url proxy address draft.options
    s.tick).1) _ ∧ _ = ((liveBackend env).runHttp parsed.url proxy address draft.options
    s.tick).2.tick
  rcases (liveBackend env).runHttp parsed.url proxy address draft.options s.tick with
    ⟨error | ⟨hops, failure⟩, t⟩
  · exact ⟨.lost hfresh rfl, rfl⟩
  · exact ⟨.reached rfl (phases_record₃ _ _ _ _), rfl⟩

theorem observeHttp_effect (parsed : ParsedTarget) (proxy : ResolvedProxy) (address : SocketAddr)
    (draft : Draft) (hfresh : draft.http = []) (s : Session (World env)) :
    ∃ e r, Leads s e (observeHttp (liveBackend env) parsed proxy address draft s).2 ∧
      ChainEffect env draft.options 0 ⟨parsed.url, [], proxy, address⟩ e r ∧
      Concluded (some r)
        (settle (observeHttp (liveBackend env) parsed proxy address draft s).1) := by
  obtain ⟨e, hleads, hchain⟩ := runHttp_effect parsed.url proxy address draft.options s.tick
  obtain ⟨hconcluded, hend⟩ := observeHttp_run parsed proxy address draft hfresh s
  have hleads := ((leads_tick s).trans hleads).trans (leads_tick _)
  rw [Effect.none_append, Effect.append_none, ← hend] at hleads
  exact ⟨e, _, hleads, hchain, hconcluded⟩

/-- The TLS stage is called, and the deadline cuts its handshake. -/
def RunCut (parsed : ParsedTarget) (proxy : ResolvedProxy) (draft : Draft)
    (s : Session (World env)) : Prop :=
  TlsProbed parsed proxy ∧ ∃ d address t,
    observeEndpoint (liveBackend env) proxy draft s = (.ok (d, address), t) ∧
    HandshakeCut env parsed.summary.host t.tick

/-- The effects of a run after its proxy selection, with the result of the HTTP
stage if it is called. -/
inductive InspectionEffect (env : Environment) (options : InspectionOptions)
    (parsed : ParsedTarget) (proxy : ResolvedProxy) (cut : Prop) :
    Effect → Option (AppResult HttpResult) → Prop
  | unreached {e : Effect} (reach : ReachEffect options proxy e none) (uncut : ¬ cut) :
      InspectionEffect env options parsed proxy cut e none
  | unprotected {e₁ e₂ : Effect} {address : SocketAddr} {error : AppError}
      (reach : ReachEffect options proxy e₁ (some address)) (probed : TlsProbed parsed proxy)
      (tls : TlsEffect cut address options.showAddresses e₂ (.error error)) :
      InspectionEffect env options parsed proxy cut (e₁ ++ e₂) none
  | requested {e₁ e₂ e₃ : Effect} {address : SocketAddr} {r : AppResult HttpResult}
      (reach : ReachEffect options proxy e₁ (some address))
      (tls : SecureEffect (TlsProbed parsed proxy) cut address options.showAddresses e₂)
      (uncut : ¬ cut)
      (chain : ChainEffect env options 0 ⟨parsed.url, [], proxy, address⟩ e₃ r) :
      InspectionEffect env options parsed proxy cut (e₁ ++ e₂ ++ e₃) (some r)

/-- A handshake that is validated was not cut. -/
theorem TlsEffect.uncut_of_ok {cut : Prop} {address : SocketAddr} {showAddresses : Bool}
    {e : Effect} {summary : TlsSummary} (h : TlsEffect cut address showAddresses e (.ok summary)) :
    ¬ cut := by
  cases h with
  | attempted uncut timeout connected rounds record kind names r => exact uncut

theorem observeAll_effect (parsed : ParsedTarget) (proxy : ResolvedProxy) (draft : Draft)
    (hfresh : draft.http = []) (s : Session (World env)) :
    ∃ e r, Leads s e (observeAll (liveBackend env) parsed proxy draft s).2 ∧
      InspectionEffect env draft.options parsed proxy (RunCut parsed proxy draft s) e r ∧
      Concluded r (settle (observeAll (liveBackend env) parsed proxy draft s).1) := by
  rw [observeAll_eq]
  obtain ⟨e₁, r₁, hleads₁, hreach, ⟨d₁, hd₁, hkeeps₁, rfl⟩ | ⟨d₁, address, hd₁, hkeeps₁, rfl⟩⟩ :=
    observeEndpoint_effect proxy draft s
  · rw [Prog.bind_error (Prod.ext hd₁ rfl)]
    refine ⟨e₁, none, hleads₁, .unreached hreach ?_, .unrequested (hkeeps₁.http.trans hfresh)⟩
    rintro ⟨-, d, address, t, ht, -⟩
    rw [ht] at hd₁
    cases hd₁
  rcases hrun : observeEndpoint (liveBackend env) proxy draft s with ⟨r, t⟩
  rw [hrun] at hd₁ hleads₁
  change r = _ at hd₁
  subst hd₁
  rw [Prog.bind_ok hrun]
  have hcut : RunCut parsed proxy draft s ↔
      TlsProbed parsed proxy ∧ HandshakeCut env parsed.summary.host t.tick := by
    refine and_congr_right fun _ => ⟨?_, fun h => ⟨d₁, address, t, hrun, h⟩⟩
    rintro ⟨d, a, u, hu, h⟩
    rw [hrun] at hu
    cases hu
    exact h
  rw [← hkeeps₁.options]
  rw [← hkeeps₁.options] at hreach
  dsimp only
  obtain ⟨e₂, hleads₂, ⟨d₂, hd₂, hkeeps₂, hprobed, error, htls⟩ | ⟨d₂, hd₂, hkeeps₂, htls⟩⟩ :=
    observeTls_effect parsed proxy address d₁ t
  · rw [Prog.bind_error (Prod.ext hd₂ rfl)]
    rw [← propext (hcut.trans (and_iff_right hprobed))] at htls
    exact ⟨_, none, hleads₁.trans hleads₂, .unprotected hreach hprobed htls,
      .unrequested ((hkeeps₁.trans hkeeps₂).http.trans hfresh)⟩
  · rw [Prog.bind_ok (Prod.ext hd₂ rfl)]
    obtain ⟨e₃, r, hleads₃, hchain, hconcluded⟩ :=
      observeHttp_effect parsed proxy address d₂ ((hkeeps₁.trans hkeeps₂).http.trans hfresh)
        (observeTls (liveBackend env) parsed proxy address d₁ t).2
    rw [hkeeps₂.options] at hchain
    refine ⟨_, some r, (hleads₁.trans hleads₂).trans hleads₃, ?_, hconcluded⟩
    cases htls with
    | unprobed hprobed =>
      exact .requested hreach (.unprobed hprobed) (fun h => hprobed (hcut.mp h).1) hchain
    | validated hprobed htls =>
      rw [← propext (hcut.trans (and_iff_right hprobed))] at htls
      exact .requested hreach (.validated hprobed htls) htls.uncut_of_ok hchain

section

variable {options : InspectionOptions}

omit [Crates] in
theorem LookupEffect.silent {destination : String} {e : Effect}
    {r : AppResult (List SocketAddr × List SocketAddr)}
    (h : LookupEffect options destination e r) : e.hops = [] ∧ e.read = 0 := by
  cases h <;> exact ⟨rfl, rfl⟩

theorem ConnectEffect.silent {addresses : List SocketAddr} {e : Effect} {r : AppResult SocketAddr}
    (h : ConnectEffect options addresses e r) : e.hops = [] ∧ e.read = 0 := by
  induction h with
  | exhausted => exact ⟨rfl, rfl⟩
  | refused => exact ⟨rfl, rfl⟩
  | connected => exact ⟨rfl, rfl⟩
  | failed address rest timeout record kind names later ih =>
    exact ⟨ih.1, (Nat.zero_add _).trans ih.2⟩

theorem ReachEffect.silent {proxy : ResolvedProxy} {e : Effect} {r : Option SocketAddr}
    (h : ReachEffect options proxy e r) : e.hops = [] ∧ e.read = 0 := by
  cases h with
  | unresolved lookup => exact lookup.silent
  | denied lookup => exact lookup.silent
  | attempted lookup connect =>
    obtain ⟨hhops, hread⟩ := lookup.silent
    obtain ⟨hhops', hread'⟩ := connect.silent
    constructor
    · rw [Effect.hops_append, hhops, hhops']
      rfl
    · rw [Effect.read_append, hread, hread']

theorem TlsEffect.silent {cut : Prop} {address : SocketAddr} {showAddresses : Bool} {e : Effect}
    {r : AppResult TlsSummary} (h : TlsEffect cut address showAddresses e r) :
    e.hops = [] ∧ e.read = 0 := by
  cases h <;> exact ⟨rfl, rfl⟩

theorem SecureEffect.silent {probed cut : Prop} {address : SocketAddr} {showAddresses : Bool}
    {e : Effect} (h : SecureEffect probed cut address showAddresses e) :
    e.hops = [] ∧ e.read = 0 := by
  cases h with
  | unprobed h => exact ⟨rfl, rfl⟩
  | validated h tls => exact tls.silent

theorem EndpointEffect.silent {i : ℕ} {b : HopState} {e : Effect}
    {r : AppResult (ResolvedProxy × SocketAddr)} (h : EndpointEffect env options i b e r) :
    e.hops = [] ∧ e.read = 0 := by
  cases h with
  | first => exact ⟨rfl, rfl⟩
  | later i b authorized =>
    cases authorized with
    | denied error => exact ⟨rfl, rfl⟩
    | looked parsed proxy accepts selects lookup => exact lookup.silent

/-- A request finishes no hop by itself, and one that fails counts no octets. -/
theorem ExchangeEffect.silent {served : Prop} {i : ℕ} {current : Url} {proxy : ResolvedProxy}
    {address : SocketAddr} {e : Effect} {r : AppResult Exchange}
    (h : ExchangeEffect env served options i current proxy address e r) :
    e.hops = [] ∧ ∀ {error}, r = .error error → e.read = 0 := by
  cases h with
  | refused unserved error => exact ⟨rfl, fun _ => rfl⟩
  | failed unserved client pinned reads record kind names error => exact ⟨rfl, fun _ => rfl⟩
  | finished isserved client pinned reads record kind names response read sampled =>
    exact ⟨rfl, fun h => by cases h⟩

/-- A round appends the hops of its effect to those it has. -/
theorem RoundEffect.hops_eq {i : ℕ} {b : HopState} {e : Effect}
    {r : AppResult (HopState ⊕ HttpResult)} (h : RoundEffect env options i b e r) :
    (∀ b', r = .ok (.inl b') → b'.hops = b.hops ++ e.hops) ∧
      ∀ result, r = .ok (.inr result) → result.1 = b.hops ++ e.hops := by
  cases h with
  | stopped endpoint =>
    refine ⟨fun b' h => (by cases h), fun result h => ?_⟩
    cases h
    rw [endpoint.silent.1, List.append_nil]
  | lost endpoint request => exact ⟨fun b' h => (by cases h), fun result h => (by cases h)⟩
  | @finished e₁ e₂ proxy address x served endpoint request =>
    have hall : (e₁ ++ e₂ ++ Effect.ofHop x.hop).hops = [x.hop] := by
      rw [Effect.hops_append, Effect.hops_append, endpoint.silent.1, request.silent.1]
      rfl
    rw [hall]
    exact ⟨fun b' h => (afterHop_eq_inl (Except.ok.inj h)).2.2.2,
      fun result h => afterHop_eq_inr (Except.ok.inj h)⟩

/-- A round that goes on has finished one hop, and a round that fails none. -/
theorem RoundEffect.length_hops {i : ℕ} {b : HopState} {e : Effect}
    {r : AppResult (HopState ⊕ HttpResult)} (h : RoundEffect env options i b e r) :
    (∀ b', r = .ok (.inl b') → e.hops.length = 1) ∧ ∀ error, r = .error error → e.hops = [] := by
  cases h with
  | stopped endpoint => exact ⟨fun b' h => (by cases h), fun error h => (by cases h)⟩
  | lost endpoint request =>
    refine ⟨fun b' h => (by cases h), fun _ _ => ?_⟩
    rw [Effect.hops_append, endpoint.silent.1, request.silent.1]
    rfl
  | finished endpoint request =>
    refine ⟨fun _ _ => ?_, fun error h => (by cases h)⟩
    rw [Effect.hops_append, Effect.hops_append, endpoint.silent.1, request.silent.1]
    rfl

/-- A chain that ends with a result returns every hop it finished, in order. -/
theorem ChainEffect.hops_eq {i : ℕ} {b : HopState} {e : Effect} {r : AppResult HttpResult}
    (h : ChainEffect env options i b e r) :
    ∀ result, r = .ok result → result.1 = b.hops ++ e.hops := by
  induction h with
  | lost round => exact fun result h => by cases h
  | ended round =>
    intro result h
    cases h
    exact round.hops_eq.2 _ rfl
  | followed round later ih =>
    intro result h
    rw [ih result h, round.hops_eq.1 _ rfl, List.append_assoc, Effect.hops_append]

theorem InspectionEffect.hops_eq {parsed : ParsedTarget} {proxy : ResolvedProxy} {cut : Prop}
    {e : Effect} {hops : List HttpHop} {failure : Option AppError}
    (h : InspectionEffect env options parsed proxy cut e (some (.ok (hops, failure)))) :
    hops = e.hops := by
  cases h with
  | requested reach tls uncut chain =>
    rw [Effect.hops_append, Effect.hops_append, reach.silent.1, tls.silent.1]
    exact chain.hops_eq _ rfl

end

/-- The deadline cuts the TLS handshake of the opened run. -/
def Opening.Cut (env : Environment) {spec : InspectSpec} (o : Opening env.envVar spec) : Prop :=
  RunCut o.parsed o.proxy (o.draft env.wallClock (World.start env))
    (openingSession spec.options (World.start env))

/-- A report and the world at its end show the effect of the run. -/
structure Shows (options : InspectionOptions) (e : Effect) (report : Report) (w : World env) :
    Prop where
  calls : w.calls = e.calls
  completed : w.completed = e.hops
  probes : report.probes = e.probes
  probesUsed : report.usage.probesUsed = saturatingU32 e.probes.length
  read : report.usage.responseBytesRead.toNat = min e.read (2 ^ 64 - 1)
  numbered : ∀ i p, e.probes[i]? = some p → p.sequence.toNat = i + 1
  limit : e.probes.length ≤ options.maxProbes.toNat

theorem Shows.of_leads {options : InspectionOptions} {e : Effect}
    {run : Except Draft Draft × Session (World env)}
    (h : Leads (openingSession options (World.start env)) e run.2) :
    Shows options e (finalized run).1 (finalized run).2 where
  calls := (leads_tick run.2).calls.trans ((List.append_nil _).trans h.calls)
  completed := h.completed
  probes := h.probes
  probesUsed := congrArg (fun probes => saturatingU32 (List.length probes)) h.probes
  read := by
    have hread := h.read
    change _ = min (0 + e.read) _ at hread
    rwa [Nat.zero_add] at hread
  numbered := by
    intro i p hp
    have := h.numbered i p hp
    change _ = 0 + i + 1 at this
    omega
  limit := by
    rcases hp : e.probes with _ | ⟨p, ps⟩
    · exact Nat.zero_le _
    · have hlimit := h.limit (by simp [hp])
      rw [h.probes, hp] at hlimit
      exact hlimit

/-- A live run that reports has opened, and its report shows its effect. -/
theorem inspect_effect {spec : InspectSpec} {report : Report} {w : World env}
    (h : inspect env spec = (.ok report, w)) :
    ∃ (o : Opening env.envVar spec) (e : Effect) (r : Option (AppResult HttpResult)) (d : Draft),
      InspectionEffect env spec.options o.parsed o.proxy (o.Cut env) e r ∧
      Shows spec.options e report w ∧ Concluded r d ∧ report.http = d.http ∧
      report.phases = d.phases := by
  obtain ⟨o, ho⟩ := inspectWithBackend_eq_ok (liveBackend env) h
  obtain ⟨e, r, hleads, heffect, hconcluded⟩ :=
    observeAll_effect o.parsed o.proxy (o.draft env.wallClock (World.start env)) rfl
      (openingSession spec.options (World.start env))
  have hshows := Shows.of_leads hleads
  have hhttp := finalized_http (o.stages (liveBackend env) env.wallClock (World.start env))
  have hphases := finalized_phases (o.stages (liveBackend env) env.wallClock (World.start env))
  rw [← Opening.outcome, ho] at hhttp hphases
  rw [← Opening.stages, ← Opening.outcome, ho] at hshows
  exact ⟨o, e, r, _, heffect, hshows, hconcluded, hhttp, hphases⟩

/-- A run without a report has called nothing. -/
theorem calls_of_inspect_error {spec : InspectSpec} {error : AppError} {w : World env}
    (h : inspect env spec = (.error error, w)) : w.calls = [] := by
  unfold inspect at h
  rcases inspectWithBackend_cases (liveBackend env) env.envVar env.wallClock spec (World.start env)
    with ⟨e, -, hrun⟩ | ⟨e, -, hrun⟩ | ⟨parsed, e, -, hrun⟩ | ⟨o, hrun⟩
  · rw [hrun] at h
    cases h
    rfl
  · rw [hrun] at h
    cases h
    rfl
  · rw [hrun] at h
    cases h
    rfl
  · rw [hrun] at h
    cases h

/-- The opened run calls its HTTP stage with these loop variables in this session. -/
def Opening.StartsHttp (env : Environment) {spec : InspectSpec} (o : Opening env.envVar spec)
    (b : HopState) (s : Session (World env)) : Prop :=
  ∃ d address t d' u,
    observeEndpoint (liveBackend env) o.proxy (o.draft env.wallClock (World.start env))
      (openingSession spec.options (World.start env)) = (.ok (d, address), t) ∧
    observeTls (liveBackend env) o.parsed o.proxy address d t = (.ok d', u) ∧
    b = ⟨o.parsed.url, [], o.proxy, address⟩ ∧ s = u.tick

theorem Opening.StartsHttp.eq {spec : InspectSpec} {o : Opening env.envVar spec} {b b' : HopState}
    {s s' : Session (World env)} (h : o.StartsHttp env b s) (h' : o.StartsHttp env b' s') :
    b = b' ∧ s = s' := by
  obtain ⟨d, address, t, d₁, u, hrun, htls, rfl, rfl⟩ := h
  obtain ⟨d', address', t', d₁', u', hrun', htls', rfl, rfl⟩ := h'
  rw [hrun] at hrun'
  cases hrun'
  rw [htls] at htls'
  cases htls'
  exact ⟨rfl, rfl⟩

/-- The chain of a run starts without hops. -/
theorem Opening.StartsHttp.hops_eq_nil {spec : InspectSpec} {o : Opening env.envVar spec}
    {b : HopState} {s : Session (World env)} (h : o.StartsHttp env b s) : b.hops = [] := by
  obtain ⟨d, address, t, d', u, -, -, rfl, -⟩ := h
  rfl

theorem finalized_completed (run : Except Draft Draft × Session (World env)) :
    (finalized run).2.completed = run.2.world.completed := rfl

theorem completed_observeEndpoint (proxy : ResolvedProxy) (draft : Draft)
    (s : Session (World env)) :
    (observeEndpoint (liveBackend env) proxy draft s).2.world.completed = s.world.completed := by
  obtain ⟨e, r, hleads, hreach, -⟩ := observeEndpoint_effect proxy draft s
  rw [hleads.completed, hreach.silent.1, List.append_nil]

theorem completed_observeTls (parsed : ParsedTarget) (proxy : ResolvedProxy)
    (address : SocketAddr) (draft : Draft) (s : Session (World env)) :
    (observeTls (liveBackend env) parsed proxy address draft s).2.world.completed =
      s.world.completed := by
  obtain ⟨e, hleads, hcases⟩ := observeTls_effect parsed proxy address draft s
  have hsilent : e.hops = [] := by
    rcases hcases with ⟨_, -, -, -, _, htls⟩ | ⟨_, -, -, hsecure⟩
    · exact htls.silent.1
    · exact hsecure.silent.1
  rw [hleads.completed, hsilent, List.append_nil]

/-- The HTTP stage starts from a draft that keeps what the run began with. -/
theorem observed_keeps {proxy : ResolvedProxy} {parsed : ParsedTarget} {address : SocketAddr}
    {draft d₁ d₂ : Draft} {s t u : Session (World env)}
    (hendpoint : observeEndpoint (liveBackend env) proxy draft s = (.ok (d₁, address), t))
    (htls : observeTls (liveBackend env) parsed proxy address d₁ t = (.ok d₂, u)) :
    draft.Keeps d₂ ∧ ∃ e, Leads s e u := by
  obtain ⟨e₁, r₁, hleads₁, -, hcases₁⟩ := observeEndpoint_effect proxy draft s
  rw [hendpoint] at hleads₁ hcases₁
  obtain ⟨_, hcases₁, -⟩ | ⟨_, _, hd₁, hkeeps₁, -⟩ := hcases₁
  · cases hcases₁
  cases hd₁
  obtain ⟨e₂, hleads₂, hcases₂⟩ := observeTls_effect parsed proxy address d₁ t
  rw [htls] at hleads₂ hcases₂
  obtain ⟨_, hcases₂, -⟩ | ⟨_, hd₂, hkeeps₂, -⟩ := hcases₂
  · cases hcases₂
  cases hd₂
  exact ⟨hkeeps₁.trans hkeeps₂, _, hleads₁.trans hleads₂⟩

/-- The hops of a report and the finished hops of its run are those of the HTTP
stage, if it is called. -/
theorem inspect_http {spec : InspectSpec} {report : Report} {w : World env}
    (h : inspect env spec = (.ok report, w)) (o : Opening env.envVar spec) :
    (∃ b s, o.StartsHttp env b s ∧ s.world.completed = [] ∧ ∃ d,
      Concluded (some (runHttp b.current b.proxy b.selectedAddress spec.options s).1) d ∧
      report.http = d.http ∧ report.phases = d.phases ∧
      w.completed = (runHttp b.current b.proxy b.selectedAddress spec.options
        s).2.world.completed) ∨
    (∀ b s, ¬ o.StartsHttp env b s) ∧ w.completed = [] := by
  obtain ⟨o', ho⟩ := inspectWithBackend_eq_ok (liveBackend env) h
  obtain rfl := o'.eq o
  have hhttp := finalized_http (o'.stages (liveBackend env) env.wallClock (World.start env))
  have hphases := finalized_phases (o'.stages (liveBackend env) env.wallClock (World.start env))
  have hdone := finalized_completed (o'.stages (liveBackend env) env.wallClock (World.start env))
  rw [← Opening.outcome, ho, Opening.stages, observeAll_eq] at hhttp hphases hdone
  have hfresh₁ := completed_observeEndpoint o'.proxy (o'.draft env.wallClock (World.start env))
    (openingSession spec.options (World.start env))
  rcases hrun₁ : observeEndpoint (liveBackend env) o'.proxy
    (o'.draft env.wallClock (World.start env))
    (openingSession spec.options (World.start env)) with ⟨d₁ | ⟨d₁, address⟩, t⟩
  · rw [Prog.bind_error hrun₁] at hdone
    rw [hrun₁] at hfresh₁
    refine Or.inr ⟨?_, hdone.trans hfresh₁⟩
    rintro b s ⟨d, address, t', d', u, hrun, -⟩
    rw [hrun₁] at hrun
    cases hrun
  rw [Prog.bind_ok hrun₁] at hhttp hphases hdone
  dsimp only at hhttp hphases hdone
  have hfresh₂ := completed_observeTls o'.parsed o'.proxy address d₁ t
  rw [hrun₁] at hfresh₁
  rcases hrun₂ : observeTls (liveBackend env) o'.parsed o'.proxy address d₁ t with ⟨d₂ | d₂, u⟩
  · rw [Prog.bind_error hrun₂] at hdone
    rw [hrun₂] at hfresh₂
    refine Or.inr ⟨?_, hdone.trans (hfresh₂.trans hfresh₁)⟩
    rintro b s ⟨d, address', t', d', u', hrun, hrun', -⟩
    rw [hrun₁] at hrun
    cases hrun
    rw [hrun₂] at hrun'
    cases hrun'
  rw [Prog.bind_ok hrun₂] at hhttp hphases hdone
  rw [hrun₂] at hfresh₂
  obtain ⟨hkeeps, -⟩ := observed_keeps hrun₁ hrun₂
  obtain ⟨hconcluded, hend⟩ :=
    observeHttp_run o'.parsed o'.proxy address d₂ hkeeps.http u
  rw [hend] at hdone
  rw [hkeeps.options] at hconcluded hdone
  exact Or.inl ⟨_, _, ⟨d₁, address, t, d₂, u, hrun₁, hrun₂, rfl, rfl⟩, hfresh₂.trans hfresh₁, _,
    hconcluded, hhttp, hphases, hdone⟩

end HopWhy
