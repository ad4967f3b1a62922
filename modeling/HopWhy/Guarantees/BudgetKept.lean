import HopWhy.Guarantees.RedirectChain

/-!
# The time of a clean run

The clock moves in network calls only, and each call keeps the timeout that it is
given. The request of a hop and every read of its body are given the time that is
left when the client is built, each of them anew, so a clean run is within its
budget exactly when the last request and its reads are so together.
-/

namespace HopWhy

section

variable {env : Environment}

/-- How long the interaction with this number takes. -/
def Environment.took (env : Environment) (n : ℕ) : ℕ := env.time n - env.time (n - 1)

/-- How long as many interactions take together, from that number on. -/
def Environment.takes (env : Environment) : ℕ → ℕ → ℕ
  | _, 0 => 0
  | n, k + 1 => env.took n + env.takes (n + 1) k

theorem Environment.time_add_took (env : Environment) (n : ℕ) :
    env.time n + env.took (n + 1) = env.time (n + 1) := by
  have hmono := env.time_mono (Nat.le_add_right n 1)
  rw [took, Nat.add_sub_cancel]
  omega

theorem Environment.time_add_takes (env : Environment) (n k : ℕ) :
    env.time n + env.takes (n + 1) k = env.time (n + k) := by
  induction k generalizing n with
  | zero => rfl
  | succ k ih =>
    rw [takes, ← Nat.add_assoc, env.time_add_took, ih, Nat.add_right_comm, Nat.add_assoc]

/-- An interaction that takes so long: reading the clock takes no time, and a call is
over within the timeout that it has. A lookup has none, and in a round of a handshake
the timeout is that of each read and write. -/
def Interaction.Within (duration : ℕ) : Interaction → Prop
  | .clock => duration = 0
  | .lookup _ _ => True
  | .connect _ timeout _ => duration ≤ timeout
  | .tlsConnect _ timeout _ => duration ≤ timeout
  | .tlsRound _ => True
  | .request client _ _ => duration ≤ client.timeout
  | .bodyRead timeout => duration ≤ timeout

instance (duration : ℕ) (i : Interaction) : Decidable (i.Within duration) := by
  cases i <;> unfold Interaction.Within <;> infer_instance

/-- Every interaction of the history keeps its time. -/
def World.Timely (w : World env) : Prop :=
  ∀ p ∈ w.interactions.zipIdx, p.1.Within (env.took p.2)

instance (w : World env) : Decidable w.Timely :=
  inferInstanceAs (Decidable (∀ p ∈ w.interactions.zipIdx, p.1.Within (env.took p.2)))

theorem World.Timely.at {w : World env} (h : w.Timely) {n : ℕ} {i : Interaction}
    (hi : w.interactions[n]? = some i) : i.Within (env.took n) :=
  h (i, n) (List.mem_zipIdx_iff_getElem?.mpr hi)

/-- The clock stands still when it is read. -/
theorem World.Timely.still {w : World env} (h : w.Timely) {n : ℕ}
    (hi : w.interactions[n + 1]? = some .clock) : env.time (n + 1) = env.time n := by
  have hzero : env.took (n + 1) = 0 := h.at hi
  rw [← env.time_add_took, hzero, Nat.add_zero]

/-- The reads that are made of a body. -/
def readCount : ℕ → List BodyRead → ℕ
  | 0, _ => 0
  | _ + 1, [] => 1
  | limit + 1, .data octets :: rest =>
    if octets = [] then 1 else readCount (limit + 1 - octets.length) rest + 1
  | _ + 1, .failed :: _ => 1

theorem readToEnd_interactions (timeout limit : ℕ) (body : List BodyRead)
    (s : Session (World env)) :
    (readToEnd timeout limit body s).2.world.interactions =
      s.world.interactions ++ List.replicate (readCount limit body) (.bodyRead timeout) := by
  induction body generalizing limit s with
  | nil =>
    rcases limit with _ | limit
    · simp [readToEnd, readCount]
    · rfl
  | cons read rest ih =>
    rcases limit with _ | limit
    · simp [readToEnd, readCount]
    · rcases read with octets | _
      · unfold readToEnd readCount
        rw [interact_bind]
        by_cases hempty : octets = []
        · rw [if_pos hempty, if_pos hempty]
          rfl
        · rw [if_neg hempty, if_neg hempty, Prog.snd_bind_pure, ih, List.replicate_succ]
          exact List.append_assoc _ _ _
      · rfl

variable [Crates] {options : InspectionOptions}

theorem responseToHop_interactions (response : Response) (sequence timeout : ℕ) (url : String)
    (location : Option String) (s : Session (World env)) :
    (responseToHop response sequence timeout url location options s).2.world.interactions =
      s.world.interactions ++
        List.replicate (readCount (readLimit options) response.body) (.bodyRead timeout) := by
  rw [← readToEnd_interactions]
  unfold responseToHop
  rw [← readLimit, Prog.bind_apply]
  rcases readToEnd timeout (readLimit options) response.body s with ⟨error | read, t⟩
  · rfl
  · rfl

/-- The interactions of a finished exchange. -/
theorem exchange_interactions {sequence : ℕ} {current : Url} {proxy : ResolvedProxy}
    {address : SocketAddr} {s t : Session (World env)} {x : Exchange}
    (h : exchange sequence current proxy address options s = (.ok x, t)) :
    ∃ client response, env.time s.world.step < s.tracker.deadline ∧
      env.respond (s.world.step + 4) = .ok response ∧
      t.world.interactions = s.world.interactions ++
        ([.clock, .clock, .clock, .clock, .request client options.method current, .clock] ++
          List.replicate (readCount (readLimit options) response.body)
            (.bodyRead client.timeout)) := by
  unfold exchange at h
  rcases buildHttpClient_cases proxy address s with
    ⟨hready, client, -, hclient⟩ | ⟨-, error, hclient⟩
  · rw [Prog.bind_ok hclient] at h
    rcases startProbe_cases .httpRequest (redactUrl current options.showQueryValues) s.tick with
      ⟨-, -, probe, hprobe, -⟩ | ⟨-, hprobe⟩
    · rw [Prog.bind_ok hprobe, instant_bind] at h
      simp only [sendRequest, interact_bind] at h
      have hfour : s.tick.tick.tick.tick.world.step = s.world.step + 4 := by simp
      rw [hfour] at h
      rcases hrespond : env.respond (s.world.step + 4) with error | response
      · rw [hrespond] at h
        cases h
      · rw [hrespond] at h
        refine ⟨client, response, hready.inTime, rfl, ?_⟩
        simp only [finishProbe_bind] at h
        have hend : _ = t := (Prog.snd_bind_pure _ _ _).symm.trans (congrArg Prod.snd h)
        rw [← hend, responseToHop_interactions]
        simp only [interactions_close, interactions_tick, interactions_interact,
          List.append_assoc, List.cons_append, List.nil_append]
    · rw [Prog.bind_error hprobe] at h
      cases h
  · rw [Prog.bind_error hclient] at h
    cases h

/-- The chain ends in a round whose client is built in the session `u`, and whose
request is answered by the response. -/
def EndsAt (options : InspectionOptions) (b₀ : HopState) (s₀ u : Session (World env))
    (response : Response) : Prop :=
  ∃ i b s proxy address result t, HopReached options b₀ s₀ i b s ∧
    hopRound options i b s = (.ok (.inr result), t) ∧
    hopEndpoint options i b s = (.ok (proxy, address), u) ∧
    env.respond (u.world.step + 4) = .ok response

theorem EndsAt.unique {b₀ : HopState} {s₀ u u' : Session (World env)}
    {response response' : Response} (h : EndsAt options b₀ s₀ u response)
    (h' : EndsAt options b₀ s₀ u' response') :
    u = u' ∧ response = response' := by
  obtain ⟨i, b, s, proxy, address, result, t, hreached, hend, hendpoint, hrespond⟩ := h
  obtain ⟨i', b', s', proxy', address', result', t', hreached', hend', hendpoint', hrespond'⟩ := h'
  obtain ⟨rfl, rfl, rfl⟩ := hreached.ends_unique hend hreached' hend'
  rw [hendpoint] at hendpoint'
  cases hendpoint'
  rw [hrespond] at hrespond'
  cases hrespond'
  exact ⟨rfl, rfl⟩

theorem HopReached.leads {b₀ b : HopState} {s₀ s : Session (World env)} {i : ℕ}
    (h : HopReached options b₀ s₀ i b s) : ∃ e, Leads s₀ e s := by
  induction h with
  | start => exact ⟨_, Leads.refl s₀⟩
  | @next i b b' s t h goesOn ih =>
    obtain ⟨e, hleads⟩ := ih
    obtain ⟨e', hleads', -⟩ := hopRound_effect options i b s
    rw [goesOn] at hleads'
    exact ⟨_, hleads.trans hleads'⟩

/-- A chain that returns without a failure ends with a finished exchange. -/
theorem exists_endsAt {b₀ : HopState} {s₀ t : Session (World env)} {hops : List HttpHop}
    (hb : b₀.hops = [])
    (h : runHttp b₀.current b₀.proxy b₀.selectedAddress options s₀ = (.ok (hops, none), t)) :
    ∃ u response client url e, EndsAt options b₀ s₀ u response ∧ Leads s₀ e u ∧
      env.time u.world.step < u.tracker.deadline ∧
      t.world.interactions = u.world.interactions ++
        ([.clock, .clock, .clock, .clock, .request client options.method url, .clock] ++
          List.replicate (readCount (readLimit options) response.body)
            (.bodyRead client.timeout)) := by
  rw [runHttp_eq_loop hb] at h
  rcases Prog.exists_reaches_of_loop_ok _ .start h with
    ⟨i, b, s, hreached, hround⟩ | ⟨b, s, hreached⟩
  · have hend := hround
    unfold hopRound at hround
    rcases hendpoint : hopEndpoint options i b s with ⟨error | ⟨proxy, address⟩, u⟩
    · simp only [Prog.bind_apply, Prog.attempt_apply, hendpoint] at hround
      cases hround
    · simp only [Prog.bind_apply, Prog.attempt_apply, hendpoint] at hround
      rcases hx : exchange i b.current proxy address options u with ⟨error | x, v⟩
      · rw [hx] at hround
        cases hround
      · rw [hx] at hround
        obtain ⟨client, response, htime, hrespond, hinteractions⟩ := exchange_interactions hx
        obtain ⟨e, hleads⟩ := HopReached.leads hreached
        obtain ⟨e', hleads', -⟩ := hopEndpoint_effect options i b s
        rw [hendpoint] at hleads'
        have ht : t = (complete x.hop v).2 := (congrArg Prod.snd hround).symm
        refine ⟨u, response, client, b.current, _, ?_, hleads.trans hleads', htime, ?_⟩
        · exact ⟨i, b, s, proxy, address, _, t, hreached, hend, hendpoint, hrespond⟩
        · rw [ht, ← hinteractions]
          rfl
  · have := HopReached.completed hreached
    omega

omit [Crates] in
theorem failedAtOf_ne_none {phases : List Phase} (h : ∃ p ∈ phases, p.status = .failed) :
    failedAtOf phases ≠ none := by
  obtain ⟨p, hp, hfailed⟩ := h
  intro hnone
  have hfind := List.find?_eq_none.mp (Option.map_eq_none_iff.mp hnone) p hp
  simp [hfailed] at hfind

/-- An HTTP stage that leaves no failed phase has got its hops without a failure. -/
theorem observeHttp_clean {parsed : ParsedTarget} {proxy : ResolvedProxy} {address : SocketAddr}
    {draft d : Draft} {s v : Session (World env)} (hfresh : draft.http = [])
    (h : observeHttp (liveBackend env) parsed proxy address draft s = (.ok d, v))
    (hclean : ∀ p ∈ d.phases, p.status ≠ .failed) :
    ∃ hops t, runHttp parsed.url proxy address draft.options s.tick = (.ok (hops, none), t) ∧
      v = t.tick := by
  obtain ⟨hconcluded, hend⟩ := observeHttp_run parsed proxy address draft hfresh s
  rw [h] at hconcluded hend
  obtain ⟨hstatus, hredirects⟩ := hconcluded.hasStatus
  rcases hrun : runHttp parsed.url proxy address draft.options s.tick with
    ⟨error | ⟨hops, _ | error⟩, t⟩
  · rw [hrun] at hstatus
    obtain ⟨p, hp, -, hfailed⟩ := hstatus
    exact absurd hfailed (hclean p hp)
  · rw [hrun] at hend
    exact ⟨hops, t, rfl, hend⟩
  · rw [hrun] at hredirects
    obtain ⟨p, hp, -, hfailed⟩ := hredirects hops error rfl
    exact absurd hfailed (hclean p hp)

theorem Opening.StartsHttp.leads {spec : InspectSpec} {o : Opening env.envVar spec} {b : HopState}
    {s : Session (World env)} (h : o.StartsHttp env b s) :
    ∃ e, Leads (openingSession spec.options (World.start env)) e s := by
  obtain ⟨d, address, t, d', u, hendpoint, htls, -, rfl⟩ := h
  obtain ⟨-, e, hleads⟩ := observed_keeps hendpoint htls
  exact ⟨_, hleads.trans (leads_tick u)⟩

/-- A clean run goes through all of its stages. -/
theorem inspect_clean {spec : InspectSpec} {report : Report} {w : World env}
    (h : inspect env spec = (.ok report, w)) (hclean : report.failedAt = none)
    (o : Opening env.envVar spec) :
    ∃ b₀ s₀ hops t, o.StartsHttp env b₀ s₀ ∧
      runHttp b₀.current b₀.proxy b₀.selectedAddress spec.options s₀ = (.ok (hops, none), t) ∧
      w.interactions = t.world.interactions ++ [.clock, .clock] ∧
      report.usage.elapsedMs =
        saturatingU64 ((env.time (t.world.step + 1) - t.tracker.started) / 1000000) := by
  obtain ⟨o', ho⟩ := inspectWithBackend_eq_ok (liveBackend env) h
  obtain rfl := o'.eq o
  rw [Opening.outcome] at ho
  have hsettles := observeAll_settles (liveBackend env) o'.parsed o'.proxy
    (o'.draft env.wallClock (World.start env)) (openingSession spec.options (World.start env))
    trivial
  rcases hrun : o'.stages (liveBackend env) env.wallClock (World.start env) with ⟨d | d, v⟩
  · rw [hrun] at ho
    rw [Opening.stages] at hrun
    rw [hrun] at hsettles
    cases ho
    exact absurd hclean (failedAtOf_ne_none hsettles.2)
  · rw [hrun] at ho
    cases ho
    rw [Opening.stages, observeAll_eq] at hrun
    obtain ⟨⟨d₁, address⟩, t₁, hendpoint, hrun⟩ := Prog.bind_eq_ok_iff.mp hrun
    obtain ⟨d₂, u, htls, hhttp⟩ := Prog.bind_eq_ok_iff.mp hrun
    have hphases : ∀ p ∈ d.phases, p.status ≠ .failed := by
      intro p hp hfailed
      exact failedAtOf_ne_none ⟨p, hp, hfailed⟩ hclean
    obtain ⟨hkeeps, -⟩ := observed_keeps hendpoint htls
    obtain ⟨hops, t, hchain, rfl⟩ := observeHttp_clean hkeeps.http hhttp hphases
    have hoptions : d₂.options = spec.options := hkeeps.options
    rw [hoptions] at hchain
    refine ⟨_, _, hops, t, ⟨d₁, address, t₁, d₂, u, hendpoint, htls, rfl, rfl⟩, hchain, ?_, ?_⟩
    · exact List.append_assoc _ _ _
    · change saturatingU64 ((env.time t.tick.world.step - t.tracker.started) / 1000000) = _
      rw [step_tick]

omit [Crates] in
/-- In a timely history the time of an exchange goes to its request and its reads. -/
theorem World.Timely.exchange {w u : World env} (h : w.Timely) {client : HttpClient}
    {method : RequestMethod} {url : Url} {k : ℕ}
    (hw : w.interactions = u.interactions ++
      ([.clock, .clock, .clock, .clock, .request client method url, .clock] ++
        List.replicate k (.bodyRead client.timeout) ++ [.clock, .clock])) :
    env.time (u.step + 7 + k) =
      env.time u.step + env.took (u.step + 4) + env.takes (u.step + 6) k := by
  have hat : ∀ m, w.interactions[u.step + m]? =
      ([.clock, .clock, .clock, .clock, .request client method url, .clock] ++
        List.replicate k (.bodyRead client.timeout) ++ [.clock, .clock])[m]? := by
    intro m
    rw [hw, step, List.getElem?_append_right (Nat.le_add_right _ _), Nat.add_sub_cancel_left]
  have hlate : ∀ m, w.interactions[u.step + (k + m + 6)]? = [Interaction.clock, .clock][m]? := by
    intro m
    rw [hat]
    change (List.replicate k (Interaction.bodyRead client.timeout) ++ [.clock, .clock])[k + m]? = _
    rw [List.getElem?_append_right (by simp), List.length_replicate, Nat.add_sub_cancel_left]
  have h₁ : env.time (u.step + 1) = env.time u.step := h.still (hat 1)
  have h₂ : env.time (u.step + 2) = env.time (u.step + 1) := h.still (hat 2)
  have h₃ : env.time (u.step + 3) = env.time (u.step + 2) := h.still (hat 3)
  have h₅ : env.time (u.step + 5) = env.time (u.step + 4) := h.still (hat 5)
  have h₆ : env.time (u.step + (k + 5) + 1) = env.time (u.step + (k + 5)) := h.still (hlate 0)
  have h₇ : env.time (u.step + (k + 6) + 1) = env.time (u.step + (k + 6)) := h.still (hlate 1)
  have hsent : env.time (u.step + 3) + env.took (u.step + 4) = env.time (u.step + 4) :=
    env.time_add_took (u.step + 3)
  have hread : env.time (u.step + 5) + env.takes (u.step + 6) k = env.time (u.step + 5 + k) :=
    env.time_add_takes (u.step + 5) k
  rw [show u.step + 7 + k = u.step + (k + 6) + 1 by omega, h₇,
    show u.step + (k + 6) = u.step + (k + 5) + 1 by omega, h₆,
    show u.step + (k + 5) = u.step + 5 + k by omega]
  omega

/-- The last request of the run and the reads of its body together take less than a
millisecond longer than the time that is left when their client is built. -/
def Opening.EndsInTime (env : Environment) {spec : InspectSpec} (o : Opening env.envVar spec) :
    Prop :=
  ∃ b₀ s₀ u response, o.StartsHttp env b₀ s₀ ∧ EndsAt spec.options b₀ s₀ u response ∧
    env.took (u.world.step + 4) +
        env.takes (u.world.step + 6) (readCount (readLimit spec.options) response.body) <
      u.tracker.deadline - env.time u.world.step + 1000000

theorem elapsed_le_budget_iff {spec : InspectSpec} {report : Report} {w : World env}
    (h : inspect env spec = (.ok report, w)) (htimely : w.Timely)
    (hclean : report.failedAt = none) (o : Opening env.envVar spec) :
    report.usage.elapsedMs ≤ spec.options.budgetMs ↔ o.EndsInTime env := by
  obtain ⟨b₀, s₀, hops, t, hstart, hrun, hw, helapsed⟩ := inspect_clean h hclean o
  have hb : b₀.hops = [] := hstart.hops_eq_nil
  obtain ⟨u, response, client, url, e, hends, hleads, htime, ht⟩ := exists_endsAt hb hrun
  obtain ⟨e₀, hleads₀⟩ := hstart.leads
  obtain ⟨e₁, hleads₁, -⟩ := runHttp_effect b₀.current b₀.proxy b₀.selectedAddress spec.options s₀
  rw [hrun] at hleads₁
  have hstarted : t.tracker.started = env.time 0 := hleads₁.started.trans hleads₀.started
  have hdeadline : u.tracker.deadline = env.time 0 + spec.options.budgetMs.toNat * 1000000 :=
    hleads.deadline.trans hleads₀.deadline
  generalize hcount : readCount (readLimit spec.options) response.body = k at ht
  have hhistory : w.interactions = u.world.interactions ++
      ([.clock, .clock, .clock, .clock, .request client spec.options.method url, .clock] ++
        List.replicate k (.bodyRead client.timeout) ++ [.clock, .clock]) := by
    rw [hw, ht, List.append_assoc, List.append_assoc]
  have hspent := htimely.exchange hhistory
  have hstep : t.world.step + 1 = u.world.step + 7 + k := by
    rw [World.step, ht, World.step]
    simp only [List.length_append, List.length_cons, List.length_nil, List.length_replicate]
    omega
  have hmono : env.time 0 ≤ env.time u.world.step := env.time_mono (Nat.zero_le _)
  have hkept : report.usage.elapsedMs ≤ spec.options.budgetMs ↔
      env.took (u.world.step + 4) + env.takes (u.world.step + 6) k <
        u.tracker.deadline - env.time u.world.step + 1000000 := by
    have hbudget := (validateOptions_eq_ok o.valid).budget
    rw [UInt64.le_iff_toNat_le, helapsed, toNat_saturatingU64_eq_min, hstep, hspent, hstarted]
    rw [hdeadline] at htime ⊢
    omega
  rw [hkept, ← hcount]
  constructor
  · intro hless
    exact ⟨b₀, s₀, u, response, hstart, hends, hless⟩
  · rintro ⟨b₀', s₀', u', response', hstart', hends', hless⟩
    obtain ⟨rfl, rfl⟩ := hstart.eq hstart'
    obtain ⟨rfl, rfl⟩ := hends.unique hends'
    exact hless

end

/-- The same peers with a clock on which the two interactions after the number `n`
take 60 milliseconds each. -/
def Environment.slow (env : Environment) (n : ℕ) : Environment :=
  { env with
    time := fun step => min (step - n) 2 * 60000000
    time_mono := by
      intro a b h
      exact Nat.mul_le_mul_right _ (min_le_min_right 2 (Nat.sub_le_sub_right h n)) }

/-- A body in two pieces, each of which is waited for. -/
def slowBody : Environment :=
  .slow (.calm fun _ => .ok { Response.bare 200 [] with body := [.data [0x6f], .data [0x6b]] }) 25

/-- The same run with a second to spend, of which the reads take 120 milliseconds. -/
theorem slowBody_within_second :
    letI := exampleRecordings.crates
    ∃ report w, ∃ o : Opening (fun _ => none) ⟨"http://example.com/", { budgetMs := 1000 }⟩,
      inspect slowBody ⟨"http://example.com/", { budgetMs := 1000 }⟩ = (.ok report, w) ∧
      (report.usage.elapsedMs ≤ 1000 ↔ o.EndsInTime slowBody) := by
  let := exampleRecordings.crates
  have hrun : Reports (inspect slowBody ⟨"http://example.com/", { budgetMs := 1000 }⟩)
      fun report w => w.Timely ∧ report.failedAt = none := by decide +kernel
  obtain ⟨report, w, hrun, htest⟩ := exists_of_reports hrun
  obtain ⟨htimely, hclean⟩ := of_decide_eq_true htest
  obtain ⟨o, -⟩ := inspectWithBackend_eq_ok _ hrun
  exact ⟨report, w, o, hrun, elapsed_le_budget_iff hrun htimely hclean o⟩

/-- With a budget of 100 milliseconds every read is within its timeout, and the
clean report is 20 milliseconds late. -/
theorem slowBody_late :
    letI := exampleRecordings.crates
    ∃ report w, inspect slowBody ⟨"http://example.com/", { budgetMs := 100 }⟩ = (.ok report, w) ∧
      w.Timely ∧ report.failedAt = none ∧ report.usage.elapsedMs = 120 := by
  let := exampleRecordings.crates
  have hrun : Reports (inspect slowBody ⟨"http://example.com/", { budgetMs := 100 }⟩)
      fun report w => w.Timely ∧ report.failedAt = none ∧ report.usage.elapsedMs = 120 := by
    decide +kernel
  obtain ⟨report, w, hrun, htest⟩ := exists_of_reports hrun
  exact ⟨report, w, hrun, of_decide_eq_true htest⟩

end HopWhy
