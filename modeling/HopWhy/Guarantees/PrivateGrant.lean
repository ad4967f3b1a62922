import HopWhy.Runs.Options

/-!
# What the private grant changes

The grant for private addresses matters only where a lookup tells of one. Two
inspections that differ in the grant do the same until then, and where all answers
are public their histories are equal and their reports agree.
-/

namespace HopWhy

/-- The same inspection with the grant given or taken away. -/
def InspectionOptions.granting (options : InspectionOptions) (granted : Bool) :
    InspectionOptions := { options with allowPrivate := granted }

/-- The same report of a run with another grant. -/
def Report.granting [Crates] (report : Report) (granted : Bool) : Report :=
  sealReport { report with options := report.options.granting granted, reportSha256 := none }

/-- No answer of a lookup has an address that is not public. -/
def PublicAnswer : Interaction → Prop
  | .lookup _ (some answer) => ∀ a ∈ answer, classifyIp a.ip = "public"
  | _ => True

instance : DecidablePred PublicAnswer
  | .lookup _ (some answer) => inferInstanceAs (Decidable (∀ a ∈ answer, _))
  | .lookup _ none => .isTrue trivial
  | .clock => .isTrue trivial
  | .connect .. => .isTrue trivial
  | .tlsConnect .. => .isTrue trivial
  | .tlsRound _ => .isTrue trivial
  | .request .. => .isTrue trivial
  | .bodyRead _ => .isTrue trivial

variable {env : Environment}

def World.MetPublic (w : World env) : Prop := ∀ c ∈ w.calls, PublicAnswer c

/-- The run has met public addresses only so far. -/
abbrev InPublic (s : Session (World env)) : Prop := s.world.MetPublic

section

variable {ε ε' α β β' : Type}

/-- Two programs that begin with a reading of the clock. -/
theorem matchedIf_instant {E : ε → ε' → Prop} {B : β → β' → Prop}
    {f : ℕ → Prog (Session (World env)) ε β} {f' : ℕ → Prog (Session (World env)) ε' β'}
    (h : ∀ started, Prog.MatchedIf InPublic E B (f started) (f' started)) :
    Prog.MatchedIf InPublic E B (instant >>= f) (instant >>= f') :=
  fun s hs => h s.reading s.tick hs

theorem Leads.inPublic {s t : Session (World env)} {e : Effect} (h : Leads s e t)
    (ht : InPublic t) : InPublic s ∧ ∀ c ∈ e.calls, PublicAnswer c := by
  rw [InPublic, World.MetPublic, h.calls, List.forall_mem_append] at ht
  exact ht

theorem remembers_of_leads {m : Prog (Session (World env)) ε α}
    (h : ∀ s, ∃ e, Leads s e (m s).2) : Prog.Remembers InPublic m := by
  intro s hs
  obtain ⟨e, hleads⟩ := h s
  exact (hleads.inPublic hs).1

theorem remembers_instant :
    Prog.Remembers InPublic (instant : Prog (Session (World env)) ε ℕ) :=
  remembers_of_leads fun s => ⟨.none, leads_tick s⟩

theorem remembers_elapsedMs (started : ℕ) :
    Prog.Remembers InPublic (elapsedMs started : Prog (Session (World env)) ε UInt64) :=
  remembers_of_leads fun s => ⟨.none, leads_tick s⟩

theorem remembers_stopWith (draft : Draft) (name : PhaseName) (started : ℕ) (error : AppError) :
    Prog.Remembers InPublic (stopWith draft name started error : Observe (World env) α) :=
  (remembers_elapsedMs started).bind fun _ => Prog.Remembers.fail _

variable [Crates]

theorem remembers_observeTcp (permitted : List SocketAddr) (draft : Draft) :
    Prog.Remembers InPublic (observeTcp (liveBackend env) permitted draft) := by
  apply remembers_of_leads
  intro s
  obtain ⟨e, -, hleads, -⟩ := observeTcp_effect permitted draft s
  exact ⟨e, hleads⟩

theorem remembers_observeTls (parsed : ParsedTarget) (proxy : ResolvedProxy)
    (address : SocketAddr) (draft : Draft) :
    Prog.Remembers InPublic (observeTls (liveBackend env) parsed proxy address draft) := by
  have hprobe : Prog.Remembers InPublic (probeTls address parsed.summary.host
      draft.options.showAddresses : Live env _) := by
    apply remembers_of_leads
    intro s
    obtain ⟨e, hleads, -⟩ := probeTls_effect address parsed.summary.host
      draft.options.showAddresses s
    exact ⟨e, hleads⟩
  apply remembers_instant.bind
  intro started
  split_ifs
  · exact Prog.Remembers.pure _
  · exact Prog.Remembers.pure _
  · apply hprobe.branch
    · intro summary
      exact (remembers_elapsedMs started).bind fun _ => Prog.Remembers.pure _
    · intro error
      exact remembers_stopWith _ _ _ _

theorem remembers_observeHttp (parsed : ParsedTarget) (proxy : ResolvedProxy)
    (address : SocketAddr) (draft : Draft) :
    Prog.Remembers InPublic (observeHttp (liveBackend env) parsed proxy address draft) := by
  have hchain : Prog.Remembers InPublic (runHttp parsed.url proxy address draft.options :
      Live env _) := by
    apply remembers_of_leads
    intro s
    obtain ⟨e, hleads, -⟩ := runHttp_effect parsed.url proxy address draft.options s
    exact ⟨e, hleads⟩
  apply remembers_instant.bind
  intro started
  apply hchain.branch
  · rintro ⟨hops, failure⟩
    exact (remembers_elapsedMs started).bind fun _ => Prog.Remembers.pure _
  · intro error
    exact remembers_stopWith _ _ _ _

/-- The part of a round after its endpoint is known. -/
theorem remembers_served (options : InspectionOptions) (i : ℕ) (b : HopState)
    (proxy : ResolvedProxy) (address : SocketAddr) : Prog.Remembers InPublic (do
      let e ← exchange i b.current proxy address options
      complete e.hop
      pure (afterHop options i b proxy address e) : Live env (HopState ⊕ HttpResult)) := by
  have hexchange : Prog.Remembers InPublic (exchange i b.current proxy address options :
      Live env _) := by
    apply remembers_of_leads
    intro s
    obtain ⟨e, hleads, -⟩ := exchange_effect i b.current proxy address options s
    exact ⟨e, hleads⟩
  apply hexchange.bind
  intro e
  have hcomplete : Prog.Remembers InPublic (complete e.hop : Live env Unit) :=
    remembers_of_leads fun s => ⟨_, leads_complete s e.hop⟩
  exact hcomplete.bind fun _ => Prog.Remembers.pure _

end

section

variable (options : InspectionOptions) (granted : Bool)

theorem isIpPermitted_of_public {address : IpAddr} (h : classifyIp address = "public")
    (allowed : Bool) : isIpPermitted address allowed = true := by
  rw [isIpPermitted, h]
  exact Bool.or_true _

theorem permittedOf_granting {addresses : List SocketAddr}
    (h : ∀ a ∈ addresses, classifyIp a.ip = "public") :
    permittedOf (options.granting granted) addresses = permittedOf options addresses := by
  have hall : ∀ allowed, (addresses.filter fun a => isIpPermitted a.ip allowed) = addresses := by
    intro allowed
    rw [List.filter_eq_self]
    exact fun a ha => isIpPermitted_of_public (h a ha) allowed
  rw [permittedOf, permittedOf, hall, hall]
  rfl

/-- What a lookup leaves behind does not depend on the options. -/
theorem resolveAddresses_state (proxy : ResolvedProxy) (options' : InspectionOptions)
    (s : Session (World env)) :
    (resolveAddresses proxy options' s).2 = (resolveAddresses proxy options s).2 := by
  unfold resolveAddresses
  dsimp only
  rw [← destinationOf]
  rcases startProbe_cases .dnsLookup (destinationOf proxy) s with
    ⟨-, -, probe, hprobe, -⟩ | ⟨-, hprobe⟩
  · rw [Prog.bind_ok hprobe, Prog.bind_ok hprobe]
    simp only [instant_bind, toSocketAddrs, interact_bind]
    rcases answerTo env (destinationOf proxy) s.tick.tick.tick.world.step with _ | answer
    · rfl
    · simp only [finishProbe_bind, resolved_apply]
  · rw [Prog.bind_error hprobe, Prog.bind_error hprobe]

/-- A lookup in public returns public addresses. -/
theorem public_of_resolved {proxy : ResolvedProxy} {s : Session (World env)}
    {all permitted : List SocketAddr} (hs : InPublic (resolveAddresses proxy options s).2)
    (h : (resolveAddresses proxy options s).1 = .ok (all, permitted)) :
    ∀ a ∈ all, classifyIp a.ip = "public" := by
  obtain ⟨e, hleads, hlookup⟩ := resolveAddresses_effect proxy options s
  have hmet := (hleads.inPublic hs).2
  rw [h] at hlookup
  generalize hr : (Except.ok (all, permitted) : AppResult _) = r at hlookup
  cases hlookup with
  | refused => cases hr
  | asked answer record kind asks literal =>
    rcases answer with _ | answer
    · cases hr
    · rw [resolutionOf] at hr
      split_ifs at hr
      cases hr
      intro a ha
      exact hmet _ List.mem_cons_self a (mem_arrange.mp ha)

theorem resolveAddresses_granting (proxy : ResolvedProxy) :
    Prog.MatchedIf InPublic Eq (fun r r' => r' = r ∧ ∀ a ∈ r.1, classifyIp a.ip = "public")
      (resolveAddresses proxy options : Live env _)
      (resolveAddresses proxy (options.granting granted)) := by
  intro s hs
  refine ⟨?_, resolveAddresses_state options proxy _ s⟩
  by_cases hopen : Openable s
  · have hresult := resolveAddresses_answered proxy options hopen
    rw [resolveAddresses_answered proxy (options.granting granted) hopen, hresult]
    rcases hanswer : answerTo env (destinationOf proxy) (s.world.step + 3) with _ | answer
    · rfl
    · rw [hanswer] at hresult
      unfold resolutionOf at hresult ⊢
      dsimp only at hresult ⊢
      split_ifs at hresult ⊢
      · rfl
      · have hpublic := public_of_resolved options hs hresult
        refine ⟨?_, hpublic⟩
        rw [permittedOf_granting options granted hpublic]
  · rw [resolveAddresses_closed proxy _ hopen, resolveAddresses_closed proxy _ hopen]
    rfl

end

section

variable [Crates] (options : InspectionOptions) (granted : Bool)

theorem authorizeRedirect_granting (current : Url) :
    Prog.MatchedIf InPublic Eq Eq (authorizeRedirect current options : Live env _)
      (authorizeRedirect current (options.granting granted)) := by
  intro s hs
  rcases hparsed : parseTarget current.asStr options with error | parsed
  · have hparsed' : parseTarget current.asStr (options.granting granted) = .error error := hparsed
    simp only [authorizeRedirect, hparsed, hparsed', Prog.bind_apply, Prog.ofExcept_apply]
    exact ⟨rfl, trivial⟩
  have hparsed' : parseTarget current.asStr (options.granting granted) = .ok parsed := hparsed
  rcases hproxy : resolveProxy env.envVar parsed.url options with error | proxy
  · have hproxy' : resolveProxy env.envVar parsed.url (options.granting granted) =
        .error error := hproxy
    simp only [authorizeRedirect, hparsed, hparsed', hproxy, hproxy', Prog.bind_apply,
      Prog.ofExcept_apply]
    exact ⟨rfl, trivial⟩
  have hproxy' : resolveProxy env.envVar parsed.url (options.granting granted) = .ok proxy := hproxy
  rw [authorizeRedirect_apply hparsed hproxy] at hs ⊢
  rw [authorizeRedirect_apply hparsed' hproxy']
  obtain ⟨hresult, hstate⟩ := resolveAddresses_granting options granted proxy s hs
  refine ⟨?_, hstate⟩
  rcases hr : (resolveAddresses proxy options s).1 with error | ⟨all, permitted⟩ <;>
    rcases hr' : (resolveAddresses proxy (options.granting granted) s).1 with
      error' | ⟨all', permitted'⟩ <;> rw [hr, hr'] at hresult
  · cases hresult
    rfl
  · cases hresult
  · cases hresult
  · cases hresult.1
    rw [endpointOf]
    dsimp only
    rcases permitted.head? with _ | address
    · rfl
    · rfl

theorem hopRound_granting (i : ℕ) (b : HopState) :
    Prog.MatchedIf InPublic Eq Eq (hopRound options i b : Live env _)
      (hopRound (options.granting granted) i b) := by
  have hendpoint : Prog.MatchedIf InPublic Eq Eq (hopEndpoint options i b : Live env _)
      (hopEndpoint (options.granting granted) i b) := by
    unfold hopEndpoint
    split_ifs
    · exact Prog.MatchedIf.refl _
    · exact authorizeRedirect_granting options granted b.current
  apply hendpoint.branch
  · rintro (error | ⟨proxy, address⟩)
    · exact Prog.Remembers.pure _
    · exact remembers_served options i b proxy address
  · rintro ⟨proxy, address⟩ _ rfl
    exact Prog.MatchedIf.refl _
  · intro error
    exact Prog.MatchedIf.refl _

theorem runHttp_granting (url : Url) (proxy : ResolvedProxy) (address : SocketAddr) :
    Prog.MatchedIf InPublic Eq Eq (runHttp url proxy address options : Live env _)
      (runHttp url proxy address (options.granting granted)) := by
  have hround : ∀ i b, Prog.Remembers InPublic (hopRound options i b : Live env _) := by
    intro i b
    apply remembers_of_leads
    intro s
    obtain ⟨e, hleads, -⟩ := hopRound_effect options i b s
    exact ⟨e, hleads⟩
  exact (Prog.MatchedIf.loop (fun i b => hopRound_granting options granted i b) hround
    (fun b => Prog.Remembers.pure _) _ _ _).2

abbrev regranted (granted : Bool) (options : InspectionOptions) : InspectionOptions :=
  options.granting granted

/-- Two stages that end alike as long as the run is in public. -/
abbrev SameInPublic (env : Environment) (granted : Bool) {α : Type} (A : α → α → Prop)
    (m m' : Prog (Session (World env)) Draft α) : Prop :=
  Prog.MatchedIf InPublic (fun d d' => d' = d.opting (regranted granted)) A m m'

theorem observeDns_granting (proxy : ResolvedProxy) (draft : Draft) :
    SameInPublic env granted (fun a a' => a' = (a.1.opting (regranted granted), a.2))
      (observeDns (liveBackend env) proxy draft)
      (observeDns (liveBackend env) proxy (draft.opting (regranted granted))) := by
  apply matchedIf_instant
  intro started
  apply (resolveAddresses_granting draft.options granted proxy).branch
  · rintro (error | ⟨all, permitted⟩)
    · exact remembers_stopWith _ _ _ _
    · dsimp only
      split_ifs
      · exact remembers_stopWith _ _ _ _
      · exact (remembers_elapsedMs started).bind fun _ => Prog.Remembers.pure _
  · rintro ⟨all, permitted⟩ _ ⟨rfl, hpublic⟩
    have hlisted : all.map (observeAddress (draft.opting (regranted granted)).options) =
        all.map (observeAddress draft.options) := by
      apply List.map_congr_left
      intro address haddress
      unfold observeAddress
      rw [isIpPermitted_of_public (hpublic address haddress),
        isIpPermitted_of_public (hpublic address haddress)]
      rfl
    dsimp only
    rw [hlisted]
    split_ifs
    · exact (stopWith_sameBut { draft with addresses := _ } _ _ _).matchedIf
    · apply Prog.Matched.matchedIf
      apply (elapsedMs_sameBut started).bind
      rintro durationMs _ rfl
      exact Prog.Matched.pure rfl
  · intro error
    exact (stopWith_sameBut _ _ _ _).matchedIf

theorem observeHttp_granting (parsed : ParsedTarget) (proxy : ResolvedProxy)
    (address : SocketAddr) (draft : Draft) :
    SameInPublic env granted (fun d d' => d' = d.opting (regranted granted))
      (observeHttp (liveBackend env) parsed proxy address draft)
      (observeHttp (liveBackend env) parsed proxy address (draft.opting (regranted granted))) := by
  apply matchedIf_instant
  intro started
  apply (runHttp_granting draft.options granted parsed.url proxy address).branch
  · rintro (error | ⟨hops, failure⟩)
    · exact remembers_stopWith _ _ _ _
    · exact (remembers_elapsedMs started).bind fun _ => Prog.Remembers.pure _
  · rintro ⟨hops, failure⟩ _ rfl
    apply Prog.Matched.matchedIf
    apply (elapsedMs_sameBut started).bind
    rintro durationMs _ rfl
    exact Prog.Matched.pure rfl
  · intro error
    exact (stopWith_sameBut _ _ _ _).matchedIf

omit [Crates] in
theorem unread_regranted : Unread (regranted granted) := ⟨fun _ => rfl, fun _ => rfl⟩

theorem observeAll_granting (parsed : ParsedTarget) (proxy : ResolvedProxy) (draft : Draft) :
    SameInPublic env granted (fun d d' => d' = d.opting (regranted granted))
      (observeAll (liveBackend env) parsed proxy draft)
      (observeAll (liveBackend env) parsed proxy (draft.opting (regranted granted))) := by
  apply (observeDns_granting granted proxy draft).bind
  · rintro ⟨d₁, permitted⟩
    apply (remembers_observeTcp permitted d₁).bind
    rintro ⟨d₂, address⟩
    apply (remembers_observeTls parsed proxy address d₂).bind
    exact remembers_observeHttp parsed proxy address
  rintro ⟨d₁, permitted⟩ _ rfl
  apply (observeTcp_sameBut (unread_regranted granted) permitted d₁).matchedIf.bind
  · rintro ⟨d₂, address⟩
    apply (remembers_observeTls parsed proxy address d₂).bind
    exact remembers_observeHttp parsed proxy address
  rintro ⟨d₂, address⟩ _ rfl
  apply (observeTls_sameBut (unread_regranted granted) parsed proxy address d₂).matchedIf.bind
  · exact remembers_observeHttp parsed proxy address
  rintro d₃ _ rfl
  exact observeHttp_granting granted parsed proxy address d₃

theorem finalized_granting {run run' : Except Draft Draft × Session (World env)}
    (hresult : run.1.Either (fun d d' => d' = d.opting (regranted granted))
      (fun d d' => d' = d.opting (regranted granted)) run'.1) (hstate : run'.2 = run.2) :
    (finalized run').1 = (finalized run).1.granting granted ∧
      (finalized run').2 = (finalized run).2 := by
  have hsettle : settle run'.1 = (settle run.1).opting (regranted granted) := by
    rcases hr : run.1 with d | d <;> rcases hr' : run'.1 with d' | d' <;> rw [hr, hr'] at hresult
    · exact hresult
    · cases hresult
    · cases hresult
    · exact hresult
  unfold finalized
  rw [hsettle, hstate]
  exact ⟨rfl, rfl⟩

/-- Where all lookups have public answers, the grant changes the report's options only. -/
theorem inspect_granting {target : String} {options : InspectionOptions} {report : Report}
    {w : World env} (granted : Bool) (h : inspect env ⟨target, options⟩ = (.ok report, w))
    (hpublic : w.MetPublic) :
    inspect env ⟨target, options.granting granted⟩ = (.ok (report.granting granted), w) := by
  obtain ⟨o, ho⟩ := inspectWithBackend_eq_ok (liveBackend env) h
  let o' : Opening env.envVar ⟨target, options.granting granted⟩ :=
    ⟨o.parsed, o.proxy, o.valid, o.accepts, o.selects⟩
  obtain ⟨rfl, rfl⟩ := Prod.mk.inj ho
  have hmet : InPublic (observeAll (liveBackend env) o.parsed o.proxy
      (o.draft env.wallClock (World.start env)) (openingSession options (World.start env))).2 := by
    rw [InPublic, World.MetPublic, ← calls_finalized]
    exact hpublic
  obtain ⟨hresult, hstate⟩ := observeAll_granting granted o.parsed o.proxy
    (o.draft env.wallClock (World.start env)) (openingSession options (World.start env)) hmet
  obtain ⟨hreport, hworld⟩ := finalized_granting granted hresult hstate
  refine (inspectWithBackend_opening (liveBackend env) o' env.wallClock (World.start env)).trans ?_
  exact Prod.ext (congrArg Except.ok hreport) hworld

end

/-- The front page with the grant. -/
theorem frontPage_granting :
    letI := exampleRecordings.crates
    ∃ report w, inspect (.calm exampleRedirect) ⟨"http://example.com/", {}⟩ = (.ok report, w) ∧
      w.MetPublic ∧
      inspect (.calm exampleRedirect)
        ⟨"http://example.com/", ({} : InspectionOptions).granting true⟩ =
          (.ok (report.granting true), w) := by
  let := exampleRecordings.crates
  have hrun : Reports (inspect (.calm exampleRedirect) ⟨"http://example.com/", {}⟩)
      fun _ w => ∀ c ∈ w.calls, PublicAnswer c := by
    decide +kernel
  obtain ⟨report, w, hrun, htest⟩ := exists_of_reports hrun
  have hpublic : ∀ c ∈ w.calls, PublicAnswer c := of_decide_eq_true htest
  exact ⟨report, w, hrun, hpublic, inspect_granting true hrun hpublic⟩

end HopWhy
