import Mathlib.Data.List.Infix
import HopWhy.Guarantees.ChainContinuity
import HopWhy.Guarantees.RedirectChain

/-!
# Requested redirects

A redirect response with a `Location` is followed or refused exactly when the
value of the header is text and the body can be read. A value that is no text
is taken for an absent one, and the chain ends as if nothing had been asked.
-/

namespace HopWhy

section

variable {env : Environment}

/-- The request that goes out in this state is answered with the response. -/
structure Answered (env : Environment) (proxy : ResolvedProxy) (s : Session (World env))
    (response : Response) : Prop where
  client : ClientReady env proxy s
  inTime : env.time (s.world.step + 1) < s.tracker.deadline
  slot : SlotFree s
  responds : env.respond (s.world.step + 4) = .ok response

variable [Crates] {options : InspectionOptions}

theorem exchange_of_answered {proxy : ResolvedProxy} {s : Session (World env)}
    {response : Response} (h : Answered env proxy s response) (sequence : ℕ) (current : Url)
    (address : SocketAddr) (options : InspectionOptions) :
    (exchange sequence current proxy address options s).1 =
      match bodySample (readLimit options) response.body with
      | some read => .ok (exchangeOf options sequence current response read)
      | none => .error responseBodyReadFailed := by
  unfold exchange
  rcases buildHttpClient_cases proxy address s with
    ⟨-, client, -, hclient⟩ | ⟨hready, -⟩
  swap
  · exact absurd h.client hready
  rw [Prog.bind_ok hclient]
  rcases startProbe_cases .httpRequest (redactUrl current options.showQueryValues) s.tick with
    ⟨-, -, probe, hprobe, -⟩ | ⟨hno, -⟩
  swap
  · exact absurd ⟨by rw [step_tick]; exact h.inTime, h.slot⟩ hno
  rw [Prog.bind_ok hprobe, instant_bind]
  have hfour : s.tick.tick.tick.tick.world.step = s.world.step + 4 := by simp
  simp only [sendRequest, interact_bind, hfour, h.responds, finishProbe_bind]
  rcases responseToHop_cases response sequence client.timeout
    (redactUrl current options.showQueryValues)
    ((followLocation current response).1.map fun url =>
      redactUrl url options.showQueryValues) options _ with
    ⟨reads, ⟨read, hsample, hok, -⟩ | ⟨hsample, herr, -⟩⟩
  · rw [Prog.bind_ok (Prod.ext hok rfl), hsample]
    rfl
  · rw [Prog.bind_error (Prod.ext herr rfl), hsample]

theorem hopRound_of_answered {i : ℕ} {b : HopState} {s t : Session (World env)}
    {proxy : ResolvedProxy} {address : SocketAddr} {response : Response}
    (hendpoint : hopEndpoint options i b s = (.ok (proxy, address), t))
    (hanswered : Answered env proxy t response) :
    (hopRound options i b s).1 =
      match bodySample (readLimit options) response.body with
      | some read =>
        .ok (afterHop options i b proxy address (exchangeOf options i b.current response read))
      | none => .error responseBodyReadFailed := by
  unfold hopRound
  simp only [Prog.bind_apply, Prog.attempt_apply, hendpoint]
  have hexchange := exchange_of_answered hanswered i b.current address options
  rcases hsample : bodySample (readLimit options) response.body with _ | read
  · rw [hsample] at hexchange
    have hx : exchange i b.current proxy address options t = (.error responseBodyReadFailed, _) :=
      Prod.ext hexchange rfl
    rw [hx]
  · rw [hsample] at hexchange
    have hx : exchange i b.current proxy address options t =
        (.ok (exchangeOf options i b.current response read), _) := Prod.ext hexchange rfl
    rw [hx]
    rfl

/-- The hop is answered with a redirect that carries a `Location`. -/
structure AskedAt (options : InspectionOptions) (i : ℕ) (b : HopState) (s : Session (World env))
    (response : Response) (value : List UInt8) : Prop where
  answered : ∃ proxy address t, hopEndpoint options i b s = (.ok (proxy, address), t) ∧
    Answered env proxy t response
  redirection : isRedirection response.status = true
  location : response.headers.lookup "location" = some value

/-- The round goes on to the next hop or ends the chain with a redirect error. -/
def Decided (options : InspectionOptions) (i : ℕ) (b : HopState) (s : Session (World env)) : Prop :=
  (∃ b', (hopRound options i b s).1 = .ok (.inl b')) ∨
    ∃ hops error, (hopRound options i b s).1 = .ok (.inr (hops, some error))

/-- What the client has to make of a redirect response: text and a body sample. -/
def Readable (options : InspectionOptions) (response : Response) (value : List UInt8) : Prop :=
  (headerText value).isSome ∧ (bodySample (readLimit options) response.body).isSome

section

variable {i : ℕ} {b : HopState} {s : Session (World env)} {response : Response}
  {value : List UInt8}

theorem AskedAt.hopRound_eq (h : AskedAt options i b s response value) :
    ∃ proxy address, (hopRound options i b s).1 =
      match bodySample (readLimit options) response.body with
      | some read =>
        .ok (afterHop options i b proxy address (exchangeOf options i b.current response read))
      | none => .error responseBodyReadFailed := by
  obtain ⟨proxy, address, t, hendpoint, hanswered⟩ := h.answered
  exact ⟨proxy, address, hopRound_of_answered hendpoint hanswered⟩

theorem AskedAt.followLocation_eq (h : AskedAt options i b s response value) :
    followLocation b.current response =
      match headerText value with
      | none => (none, none)
      | some location =>
        match Crates.urlJoin b.current location with
        | .ok next => (some next, none)
        | .error _ => (none, some invalidRedirectLocation) := by
  rw [followLocation, if_pos h.redirection, headerValue, h.location]
  rfl

/-- A redirect response is followed or refused exactly when it is readable. -/
theorem AskedAt.decided_iff (h : AskedAt options i b s response value) :
    Decided options i b s ↔ Readable options response value := by
  obtain ⟨proxy, address, hround⟩ := h.hopRound_eq
  unfold Decided Readable
  rw [hround]
  rcases bodySample (readLimit options) response.body with _ | read
  · simp
  · unfold exchangeOf afterHop
    rw [h.followLocation_eq]
    rcases headerText value with _ | location
    · simp
    · dsimp only
      rcases Crates.urlJoin b.current location with error | next
      · simp
      · by_cases hfull : i = options.maxRedirects.toNat
        · simp [hfull]
        · simp [hfull]

end

/-- Every asked redirect of the run is followed or refused, and its report says so. -/
structure RedirectsReported (options : InspectionOptions) (b₀ : HopState)
    (s₀ : Session (World env)) (report : Report) : Prop where
  decided : ∀ i b s response value, HopReached options b₀ s₀ i b s →
    AskedAt options i b s response value → Decided options i b s
  phase : HasStatus report.phases .redirects .passed ∨ HasStatus report.phases .redirects .failed
  unstated : skippedPhase .redirects "the response did not request a redirect" ∉ report.phases

def RedirectsReadable (options : InspectionOptions) (b₀ : HopState) (s₀ : Session (World env)) :
    Prop :=
  ∀ i b s response value, HopReached options b₀ s₀ i b s →
    AskedAt options i b s response value → Readable options response value

theorem roundStart_of_reached {url : Url} {proxy : ResolvedProxy} {address : SocketAddr}
    {s₀ s : Session (World env)} {i : ℕ} {b : HopState}
    (h : HopReached options ⟨url, [], proxy, address⟩ s₀ i b s) :
    RoundStart options (redactUrl url options.showQueryValues) i b := by
  induction h with
  | start => exact roundStart_initial options url proxy address
  | next h goesOn ih => exact ih.next goesOn

theorem hops_prefix_of_reached {b₀ b : HopState} {s₀ s t : Session (World env)} {i : ℕ}
    {result : HttpResult} (h : HopReached options b₀ s₀ i b s)
    (hrun : Prog.loop (hopRound options) (fun b => pure (b.hops, none))
      (options.maxRedirects.toNat + 1) 0 b₀ s₀ = (.ok result, t)) : b.hops <+: result.1 := by
  have hle := h.completed.1
  have hrest : options.maxRedirects.toNat + 1 = i + (options.maxRedirects.toNat - i + 1) := by omega
  rw [hrest, Prog.loop_eq_of_reaches h] at hrun
  have hloop : Prog.Triple (fun _ => b.hops <+: b.hops)
      (Prog.loop (hopRound options) (fun b => pure (b.hops, none))
        (options.maxRedirects.toNat - i + 1) i b)
      (fun result (_ : Session (World env)) => b.hops <+: result.1) (fun _ _ => True) := by
    apply Prog.Triple.loop (fun _ (c : HopState) _ => b.hops <+: c.hops)
      (options.maxRedirects.toNat + 1)
    · intro j c hj s hprefixed
      obtain ⟨e, -, heffect⟩ := hopRound_effect options j c s
      rcases hround : hopRound options j c s with ⟨error | c' | result, t⟩
      · trivial
      · rw [hround] at heffect
        change b.hops <+: c'.hops
        rw [heffect.hops_eq.1 c' rfl]
        exact hprefixed.trans (List.prefix_append _ _)
      · rw [hround] at heffect
        change b.hops <+: result.1
        rw [heffect.hops_eq.2 result rfl]
        exact hprefixed.trans (List.prefix_append _ _)
    · intro c s hprefixed
      exact hprefixed
    · omega
  have hpost := hloop s (List.prefix_refl _)
  rw [hrun] at hpost
  exact hpost

section

variable {url : Url} {proxy : ResolvedProxy} {address : SocketAddr} {s₀ s : Session (World env)}
  {i : ℕ} {b : HopState} (hreached : HopReached options ⟨url, [], proxy, address⟩ s₀ i b s)
  (hdecided : Decided options i b s)

include hreached hdecided

/-- A chain of served redirects returns: the round that is decided has not failed, and
no round after the first fails unserved. -/
theorem exists_runHttp_ok (hserved : RedirectsServed options ⟨url, [], proxy, address⟩ s₀) :
    ∃ result t, runHttp url proxy address options s₀ = (.ok result, t) := by
  rcases hrun : runHttp url proxy address options s₀ with ⟨error | result, t⟩
  · rw [runHttp_eq_loop (b := ⟨url, [], proxy, address⟩) rfl] at hrun
    rcases Prog.exists_reaches_of_loop_error _ .start hrun with
      ⟨j, c, u, hfailed, hround⟩ | ⟨c, u, hend⟩
    · rcases hfailed with _ | @⟨j, c', _, u', _, hfailed, goesOn⟩
      · rcases hreached.first_goesOn with rfl | ⟨b', t', hgoesOn⟩
        · cases hreached
          rcases hdecided with ⟨b', hok⟩ | ⟨hops, error, hok⟩
          · rw [hround] at hok
            cases hok
          · rw [hround] at hok
            cases hok
        · rw [hround] at hgoesOn
          cases hgoesOn
      · obtain ⟨proxy', address', v, hendpoint, hunserved⟩ := hopRound_eq_error hround
        exact absurd (hserved j c u proxy' address' v (hfailed.next goesOn) hendpoint) hunserved
    · cases hend
  · exact ⟨result, t, rfl⟩

theorem one_lt_length_hops {hops : List HttpHop} {t : Session (World env)}
    (hrun : runHttp url proxy address options s₀ = (.ok (hops, none), t)) : 1 < hops.length := by
  have hcontinuous := continuous_of_runHttp hrun
  rw [runHttp_eq_loop (b := ⟨url, [], proxy, address⟩) rfl] at hrun
  rcases hdecided with ⟨b', hok⟩ | ⟨hops', error, hok⟩
  · have hnext := hreached.next (Prod.ext hok rfl)
    have hstart := roundStart_of_reached hnext
    obtain ⟨rest, hrest⟩ := hops_prefix_of_reached hnext hrun
    by_contra hshort
    -- A single hop would be the last one, and it asks for another.
    have hnil : rest = [] := by
      have hlength := congrArg List.length hrest
      rw [List.length_append, hstart.length] at hlength
      dsimp only at hlength
      exact List.length_eq_zero_iff.mp (by omega)
    rw [hnil, List.append_nil] at hrest
    obtain ⟨last, hlast⟩ := hstart.exists_last (Nat.succ_ne_zero i)
    have hsome := (hstart.follows last hlast).2
    rw [hrest] at hlast
    rw [hcontinuous.ended rfl last hlast] at hsome
    cases hsome
  · rw [(loop_of_reached hreached).2 _ hok] at hrun
    cases hrun

end

omit [Crates] in
theorem redirects_not_mem_of_http_last {names : List PhaseName} (h : names <+: canonicalPhases)
    (hlast : names.getLast? = some .http) : .redirects ∉ names := by
  have hall : ∀ names ∈ canonicalPhases.inits, names.getLast? = some .http →
      .redirects ∉ names := by decide
  exact hall names ((List.mem_inits _ _).mpr h) hlast

omit [Crates] in
theorem Concluded.redirectPhase_mem {hops : List HttpHop} {failure : Option AppError} {d : Draft}
    (h : Concluded (some (.ok (hops, failure))) d) : redirectPhase hops failure ∈ d.phases := by
  cases h with
  | reached http phases =>
    rw [phases]
    simp

/-- Every redirect that is asked for shows in the report exactly in the runs whose
redirect responses are readable and whose redirects are served. -/
theorem redirectsReported_iff {spec : InspectSpec} {report : Report} {w : World env}
    (h : inspect env spec = (.ok report, w)) (o : Opening env.envVar spec) {b₀ b : HopState}
    {s₀ s : Session (World env)} (hstart : o.StartsHttp env b₀ s₀) {i : ℕ} {response : Response}
    {value : List UInt8} (hreached : HopReached spec.options b₀ s₀ i b s)
    (hasked : AskedAt spec.options i b s response value) :
    RedirectsReported spec.options b₀ s₀ report ↔
      RedirectsReadable spec.options b₀ s₀ ∧ RedirectsServed spec.options b₀ s₀ := by
  obtain ⟨stages, hledger⟩ := exists_phaseLedger_of_inspect h o
  have hnodup := canonicalPhases_nodup.sublist hledger.names.sublist
  rcases inspect_http h o with ⟨b', s', hstart', -, d, hconcluded, -, hphases, -⟩ | ⟨hnone, -⟩
  swap
  · exact absurd hstart (hnone b₀ s₀)
  obtain ⟨rfl, rfl⟩ := hstart'.eq hstart
  obtain ⟨_, address, _, _, _, -, -, rfl, -⟩ := hstart'
  constructor
  · intro hreported
    constructor
    · intro j c u response' value' hreached' hasked'
      exact hasked'.decided_iff.mp (hreported.decided j c u response' value' hreached' hasked')
    · by_contra hunserved
      obtain ⟨error, t, hrun, -⟩ := runHttp_of_unserved rfl hunserved
      dsimp only at hrun hconcluded
      rw [hrun] at hconcluded
      have hfailed := hconcluded.hasStatus.1
      rw [← hphases] at hfailed
      have hlast := (hledger.stops .http ((hledger.failed _).mpr hfailed)).1
      have habsent := redirects_not_mem_of_http_last hledger.names hlast
      rcases hreported.phase with ⟨p, hp, hname, -⟩ | ⟨p, hp, hname, -⟩
      · exact habsent (hname ▸ List.mem_map_of_mem hp)
      · exact habsent (hname ▸ List.mem_map_of_mem hp)
  · rintro ⟨hreadable, hserved⟩
    have hdecided := hasked.decided_iff.mpr (hreadable i b s response value hreached hasked)
    obtain ⟨⟨hops, failure⟩, t, hrun⟩ := exists_runHttp_ok hreached hdecided hserved
    dsimp only at hconcluded
    rw [hrun] at hconcluded
    have hphase : HasStatus report.phases .redirects .passed ∨
        HasStatus report.phases .redirects .failed := by
      have hmem := hconcluded.redirectPhase_mem
      rw [← hphases] at hmem
      rcases failure with _ | error
      · have hmore := one_lt_length_hops hreached hdecided hrun
        exact .inl ⟨_, hmem, by simp [redirectPhase, hmore, passedPhase]⟩
      · exact .inr ⟨_, hmem, rfl, rfl⟩
    refine ⟨?_, hphase, ?_⟩
    · intro j c u response' value' hreached' hasked'
      exact hasked'.decided_iff.mpr (hreadable j c u response' value' hreached' hasked')
    · intro hstated
      have hskipped : HasStatus report.phases .redirects .skipped := ⟨_, hstated, rfl, rfl⟩
      rcases hphase with hpassed | hfailed
      · cases hskipped.eq hnodup hpassed
      · cases hskipped.eq hnodup hfailed

theorem served_of_completed {b₀ : HopState} {s₀ : Session (World env)} (hb : b₀.hops = [])
    (hfresh : s₀.world.completed = [])
    (hdone : (runHttp b₀.current b₀.proxy b₀.selectedAddress options s₀).2.world.completed ≠ []) :
    Served env options b₀.proxy s₀ := by
  by_contra hunserved
  have hendpoint : hopEndpoint options 0 b₀ s₀ = (.ok (b₀.proxy, b₀.selectedAddress), s₀) := rfl
  obtain ⟨error, herror⟩ := hopRound_of_unserved hendpoint hunserved
  obtain ⟨e, hleads, heffect⟩ := hopRound_effect options 0 b₀ s₀
  rw [runHttp_eq_loop hb, (loop_of_reached .start).1 error herror] at hdone
  dsimp only at hdone
  rw [hleads.completed, hfresh, heffect.length_hops.2 error herror] at hdone
  exact hdone rfl

end

def alwaysRedirect (value : List UInt8) : Environment :=
  .calm fun _ => .ok (.bare 302 [("location", value)])

/-- The second redirect of this run has no valid reference. -/
theorem alwaysRedirect_reported :
    letI := exampleRecordings.crates
    ∃ report w, ∃ o : Opening (fun _ => none) ⟨"http://example.com/", {}⟩,
      ∃ b₀ s₀, inspect (alwaysRedirect (Text.utf8 "/next")) ⟨"http://example.com/", {}⟩ =
        (.ok report, w) ∧ o.StartsHttp (alwaysRedirect (Text.utf8 "/next")) b₀ s₀ ∧
      (RedirectsReported {} b₀ s₀ report ↔
        RedirectsReadable {} b₀ s₀ ∧ RedirectsServed {} b₀ s₀) := by
  let := exampleRecordings.crates
  have hrun : Reports (inspect (alwaysRedirect (Text.utf8 "/next")) ⟨"http://example.com/", {}⟩)
      fun _ w => w.completed.length = 2 := by decide +kernel
  obtain ⟨report, w, hrun, htest⟩ := exists_of_reports hrun
  have hdone : w.completed ≠ [] := by
    intro hnil
    have := of_decide_eq_true htest
    rw [hnil] at this
    cases this
  obtain ⟨o, -⟩ := inspectWithBackend_eq_ok _ hrun
  rcases inspect_http hrun o with ⟨b, s, hstart, hfresh, d, -, -, -, hcompleted⟩ | ⟨-, hnone⟩
  · refine ⟨report, w, o, b, s, hrun, hstart, ?_⟩
    have hb : b.hops = [] := hstart.hops_eq_nil
    rw [hcompleted] at hdone
    have hserved := served_of_completed hb hfresh hdone
    have hasked : AskedAt {} 0 b s (.bare 302 [("location", Text.utf8 "/next")])
        (Text.utf8 "/next") :=
      ⟨⟨b.proxy, b.selectedAddress, s, rfl, hserved.client, hserved.inTime, hserved.slot, rfl⟩,
        by decide, rfl⟩
    exact redirectsReported_iff hrun o hstart .start hasked
  · exact absurd hnone hdone

/-- A `Location` that is no text is reported as no redirect. -/
theorem latinLocation_unreported :
    letI := exampleRecordings.crates
    ∃ report w, inspect (alwaysRedirect [0xe9]) ⟨"http://example.com/", {}⟩ = (.ok report, w) ∧
      report.http.map HttpHop.status = [302] ∧ ∃ p ∈ report.phases, p.name = .redirects ∧
        p.status = .skipped ∧ p.limitations = ["the response did not request a redirect"] := by
  let := exampleRecordings.crates
  have hrun : Reports (inspect (alwaysRedirect [0xe9]) ⟨"http://example.com/", {}⟩)
      fun report _ => report.http.map HttpHop.status = [302] ∧ ∃ p ∈ report.phases,
        p.name = .redirects ∧ p.status = .skipped ∧
        p.limitations = ["the response did not request a redirect"] := by decide +kernel
  obtain ⟨report, w, hrun, htest⟩ := exists_of_reports hrun
  exact ⟨report, w, hrun, of_decide_eq_true htest⟩

end HopWhy
