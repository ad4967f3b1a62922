import HopWhy.Guarantees.ResourceLimits
import HopWhy.Guarantees.Transcript

/-!
# The effective target

The target of a report is written when the target text is parsed. The answers of the
servers decide where the redirects lead from there, and the effective target is right
only when they lead back.
-/

namespace HopWhy

theorem acceptTarget_summary {url : Url} {options : InspectionOptions} {parsed : ParsedTarget}
    (h : acceptTarget url options = .ok parsed) :
    parsed.summary.intended = redactUrl parsed.url options.showQueryValues ∧
      parsed.summary.effective = redactUrl parsed.url options.showQueryValues ∧
      parsed.summary.host = parsed.url.hostStr.getD "" := by
  unfold acceptTarget at h
  split_ifs at h
  dsimp only at h
  split at h
  · cases h
  · cases h
    exact ⟨rfl, rfl, rfl⟩

/-- The responses that the servers have given, in the order of the requests. -/
def World.answers {env : Environment} (w : World env) : List Response :=
  w.sent.filterMap fun sent => (env.respond sent.number).toOption

section

variable [Crates]

/-- Where the redirects of the responses lead. -/
def landing (start : Url) (responses : List Response) : Url :=
  responses.foldl (fun url response => (followLocation url response).1.getD url) start

theorem landing_append (start : Url) (responses : List Response) (response : Response) :
    landing start (responses ++ [response]) =
      (followLocation (landing start responses) response).1.getD (landing start responses) := by
  simp [landing]

/-- The redirects before the last response lead to a URL with the same redacted text. -/
def LeadsBack (options : InspectionOptions) (start : Url) (responses : List Response) : Prop :=
  redactUrl (landing start responses.dropLast) options.showQueryValues =
    redactUrl start options.showQueryValues

variable {env : Environment} {options : InspectionOptions} {start : Url}

/-- The last hop is the one that the redirects before the last response lead to. -/
def LastShown (options : InspectionOptions) (start : Url) (hops : List HttpHop)
    (responses : List Response) : Prop :=
  hops.getLast?.map HttpHop.url = responses.getLast?.map fun _ =>
    redactUrl (landing start responses.dropLast) options.showQueryValues

theorem lastShown_append {hops : List HttpHop} {responses : List Response} {hop : HttpHop}
    (response : Response)
    (h : hop.url = redactUrl (landing start responses) options.showQueryValues) :
    LastShown options start (hops ++ [hop]) (responses ++ [response]) := by
  rw [LastShown, List.getLast?_concat, List.getLast?_concat, List.dropLast_concat]
  exact congrArg some h

/-- A chain with hops ends at the start exactly when its redirects lead back. -/
theorem lastShown_iff {hops : List HttpHop} {responses : List Response}
    (h : LastShown options start hops responses) (hne : hops ≠ []) :
    hops.getLast?.map HttpHop.url = some (redactUrl start options.showQueryValues) ↔
      LeadsBack options start responses := by
  rcases hlast : responses.getLast? with _ | response
  · rw [LastShown, hlast, Option.map_none, Option.map_eq_none_iff, List.getLast?_eq_none_iff] at h
    exact absurd h hne
  · rw [h, hlast, Option.map_some, Option.some.injEq, LeadsBack]

/-- A round begins at the URL that the responses so far lead to. -/
structure Landed (options : InspectionOptions) (start : Url) (b : HopState)
    (s : Session (World env)) : Prop where
  current : b.current = landing start s.world.answers
  shown : LastShown options start b.hops s.world.answers

omit [Crates] in
theorem Stands.answers_eq {before : List Sent} {done : List HttpHop} {number : ℕ}
    {method : RequestMethod} {url : Url} {response : Response} {s t : Session (World env)}
    (hbefore : s.world.sent = before) (hresponse : env.respond number = .ok response)
    (h : Stands (before ++ [⟨number, method, url⟩]) done t) :
    t.world.answers = s.world.answers ++ [response] := by
  rw [World.answers, h.sent, List.filterMap_append, World.answers, hbefore]
  simp [hresponse, Except.toOption]

theorem hopRound_landed (hvalid : OptionsValid options) (i : ℕ) (b : HopState) :
    Prog.Triple (fun s => Landed options start b s) (hopRound options i b : Live env _)
      (fun r t => Sum.elim (fun b' => Landed options start b' t)
        (fun r => LastShown options start r.1 t.world.answers) r)
      (fun _ _ => True) := by
  intro s hs
  have hkept : ∀ {t : Session (World env)}, Stands s.world.sent s.world.completed t →
      t.world.answers = s.world.answers := by
    intro t ht
    rw [World.answers, ht.sent, World.answers]
  refine (?_ : Prog.Triple (Stands s.world.sent s.world.completed) _ _ _) s ⟨rfl, rfl⟩
  apply ((Silent.hopEndpoint options i b).triple _ _).attempt.bind
  rintro (error | ⟨proxy, address⟩)
  · intro t ht
    change LastShown options start b.hops t.world.answers
    rw [hkept ht]
    exact hs.shown
  · apply ((exchange_triple hvalid i b.current proxy address _ _).conseq
      (fun _ h => h) (fun _ _ h => h) fun _ _ _ => trivial).bind
    rintro e t ⟨number, response, hrespond, hquotes, hnext, ht⟩
    have hanswers := ht.answers_eq rfl hrespond
    have hurl : e.hop.url = redactUrl (landing start s.world.answers) options.showQueryValues := by
      rw [hquotes.url, hs.current]
    have hshown : LastShown options start (b.hops ++ [e.hop])
        ({ t with world := t.world.complete e.hop } : Session (World env)).world.answers := by
      change LastShown options start _ t.world.answers
      rw [hanswers]
      exact lastShown_append response hurl
    change Prog.Post _ _ (.ok (afterHop options i b proxy address e), _)
    rcases hafter : afterHop options i b proxy address e with b' | r
    · obtain ⟨-, -, hgoes, hhops⟩ := afterHop_eq_inl hafter
      constructor
      · change b'.current = landing start t.world.answers
        rw [hanswers, landing_append, ← hs.current, ← hnext, hgoes]
        rfl
      · rw [hhops]
        exact hshown
    · change LastShown options start r.1 _
      rw [afterHop_eq_inr hafter]
      exact hshown

variable (start) in
theorem runHttp_lastShown (hvalid : OptionsValid options) (proxy : ResolvedProxy)
    (address : SocketAddr) :
    Prog.Triple (fun s => s.world.answers = [])
      (runHttp start proxy address options : Live env _)
      (fun r t => LastShown options start r.1 t.world.answers) (fun _ _ => True) := by
  intro s hs
  have hloop : Prog.Triple (fun s => Landed options start ⟨start, [], proxy, address⟩ s)
      (runHttp start proxy address options : Live env _)
      (fun r t => LastShown options start r.1 t.world.answers) (fun _ _ => True) := by
    apply Prog.Triple.loop
      (fun _ (b : HopState) (s : Session (World env)) => Landed options start b s)
      (options.maxRedirects.toNat + 1)
    · intro i b _
      apply (hopRound_landed hvalid i b).conseq (fun _ h => h)
      · rintro (b' | r) t ht
        · exact ht
        · exact ht
      · exact fun _ _ h => h
    · intro b s hs
      exact hs.shown
    · exact Nat.zero_add _
  apply hloop s
  constructor
  · rw [hs]
    rfl
  · rw [hs]
    rfl

theorem http_eq_nil_of_completed {spec : InspectSpec} {report : Report} {w : World env}
    (h : inspect env spec = (.ok report, w)) (hdone : w.completed = []) : report.http = [] := by
  obtain ⟨o, e, r, d, heffect, hshows, hconcluded, hhttp, -⟩ := inspect_effect h
  rcases hconcluded.http_eq heffect with hnone | hall
  · rw [hhttp, hnone]
  · rw [hhttp, hall, ← hshows.completed, hdone]

/-- The HTTP stage is the first to send requests. -/
theorem Opening.StartsHttp.answers_eq {spec : InspectSpec} {o : Opening env.envVar spec}
    {b : HopState} {s : Session (World env)} (h : o.StartsHttp env b s) :
    s.world.answers = [] := by
  obtain ⟨d, address, t, d', u, hendpoint, htls, -, rfl⟩ := h
  have hstill₁ := silent_observeEndpoint o.proxy (o.draft env.wallClock (World.start env))
    (openingSession spec.options (World.start env))
  have hstill₂ := silent_observeTls o.parsed o.proxy address d t
  rw [hendpoint] at hstill₁
  rw [htls] at hstill₂
  rw [World.answers, (still_tick u).sent, hstill₂.sent, hstill₁.sent]
  rfl

theorem Opening.StartsHttp.current_eq {spec : InspectSpec} {o : Opening env.envVar spec}
    {b : HopState} {s : Session (World env)} (h : o.StartsHttp env b s) :
    b.current = o.parsed.url := by
  obtain ⟨d, address, t, d', u, -, -, rfl, -⟩ := h
  rfl

/-- A run that calls its HTTP stage ends in the world that this stage leaves. -/
theorem Opening.StartsHttp.world_eq {spec : InspectSpec} {report : Report} {w : World env}
    (h : inspect env spec = (.ok report, w)) {o : Opening env.envVar spec} {b : HopState}
    {s : Session (World env)} (hstart : o.StartsHttp env b s) :
    w = (runHttp b.current b.proxy b.selectedAddress spec.options s).2.tick.tick.world := by
  obtain ⟨o', ho⟩ := inspectWithBackend_eq_ok (liveBackend env) h
  obtain rfl := o'.eq o
  obtain ⟨d, address, t, d', u, hendpoint, htls, rfl, rfl⟩ := hstart
  obtain ⟨hkeeps, -⟩ := observed_keeps hendpoint htls
  obtain ⟨-, hend⟩ := observeHttp_run o'.parsed o'.proxy address d' hkeeps.http u
  rw [hkeeps.options] at hend
  rw [Opening.outcome, Opening.stages, observeAll_eq, Prog.bind_ok hendpoint] at ho
  dsimp only at ho
  rw [Prog.bind_ok htls] at ho
  have hworld := congrArg Prod.snd ho
  change (observeHttp (liveBackend env) o'.parsed o'.proxy address d' u).2.tick.world = w at hworld
  rw [← hworld, hend]
  rfl

/-- A report with hops shows the redacted initial URL as its effective target. That is the
last hop reached exactly when the answers of the servers lead back to it. -/
theorem effective_iff {spec : InspectSpec} {report : Report} {w : World env}
    (h : inspect env spec = (.ok report, w)) (hhttp : report.http ≠ []) :
    ∃ parsed, parseTarget spec.target spec.options = .ok parsed ∧
      (report.target.intended = redactUrl parsed.url spec.options.showQueryValues ∧
          report.http.getLast?.map HttpHop.url = some report.target.effective ↔
        LeadsBack spec.options parsed.url w.answers) := by
  obtain ⟨o, ho⟩ := inspectWithBackend_eq_ok (liveBackend env) h
  have htarget := (o.outcome_frame (liveBackend env) env.wallClock (World.start env)).1
  rw [ho] at htarget
  obtain ⟨url, -, haccepts⟩ := parseTarget_eq_ok o.accepts
  obtain ⟨hintended, heffective, -⟩ := acceptTarget_summary haccepts
  rw [← htarget] at hintended heffective
  rcases inspect_http h o with ⟨b, s, hstart, -, d, hconcluded, hdraft, -, -⟩ | ⟨-, hdone⟩
  · have hworld := hstart.world_eq h
    have hshown := runHttp_lastShown b.current (validateOptions_eq_ok o.valid) b.proxy
      b.selectedAddress s hstart.answers_eq
    rcases hrun : runHttp b.current b.proxy b.selectedAddress spec.options s with
      ⟨error | ⟨hops, failure⟩, t⟩ <;> rw [hrun] at hconcluded hshown hworld
    · cases hconcluded with
      | lost http phases => exact absurd (hdraft.trans http) hhttp
    · have hsame : report.http = hops := by
        cases hconcluded with
        | reached http phases => exact hdraft.trans http
      refine ⟨o.parsed, o.accepts, ?_⟩
      have hanswers : w.answers = t.world.answers := by
        rw [hworld, World.answers, ((still_tick t).trans (still_tick _)).sent, World.answers]
      rw [← hstart.current_eq] at hintended heffective ⊢
      rw [heffective, hanswers, ← lastShown_iff hshown (hsame ▸ hhttp), hsame]
      exact and_iff_right hintended
  · exact absurd (http_eq_nil_of_completed h hdone) hhttp

end

def exampleAnchor : Url := { exampleUrl "/" with fragment := some "top" }

/-- A site whose front page refers to its own top. -/
def returningRecordings : Recordings :=
  { exampleRecordings with
    urls := ("http://example.com/#top", exampleAnchor) :: exampleRecordings.urls
    joins := [((exampleUrl "/", "/#top"), exampleAnchor)] }

def returningRedirect (step : ℕ) : Except SendError Response :=
  .ok (if step < 26 then .bare 302 [("location", Text.utf8 "/#top")] else .bare 200 [])

/-- The redirect is followed, and it leads back. -/
theorem returning_effective :
    letI := returningRecordings.crates
    ∃ report w, inspect (.calm returningRedirect) ⟨"http://example.com/", {}⟩ = (.ok report, w) ∧
      report.http.length = 2 ∧ w.answers.length = 2 ∧
      ∃ parsed, parseTarget "http://example.com/" {} = .ok parsed ∧
      (report.target.intended = redactUrl parsed.url false ∧
          report.http.getLast?.map HttpHop.url = some report.target.effective ↔
        LeadsBack {} parsed.url w.answers) ∧ LeadsBack {} parsed.url w.answers := by
  let := returningRecordings.crates
  have hrun : Reports (inspect (.calm returningRedirect) ⟨"http://example.com/", {}⟩)
      fun report w => report.http.length = 2 ∧ w.answers.length = 2 ∧
        report.http.getLast?.map HttpHop.url = some "http://example.com/" ∧
        report.target.intended = "http://example.com/" ∧
        report.target.effective = "http://example.com/" := by
    decide +kernel
  obtain ⟨report, w, hrun, htest⟩ := exists_of_reports hrun
  obtain ⟨hhops, hanswers, hlast, hintended, heffective⟩ := of_decide_eq_true htest
  have hhttp : report.http ≠ [] := List.ne_nil_of_length_pos (by omega)
  obtain ⟨parsed, hparsed, hiff⟩ := effective_iff hrun hhttp
  have hknown : (parseTarget "http://example.com/" {}).map (fun p => redactUrl p.url false) =
      .ok "http://example.com/" := by
    decide +kernel
  rw [hparsed] at hknown
  refine ⟨report, w, hrun, hhops, hanswers, parsed, hparsed, hiff, hiff.mp ⟨?_, ?_⟩⟩
  · exact hintended.trans (Except.ok.inj hknown).symm
  · rw [hlast, heffective]

/-- After a redirect to another page the effective target is still the first page. -/
theorem redirect_effective_differs :
    letI := exampleRecordings.crates
    ∃ report w, inspect (.calm exampleRedirect) ⟨"http://example.com/", {}⟩ = (.ok report, w) ∧
      report.http.getLast?.map HttpHop.url = some "http://example.com/next" ∧
      report.target.effective = "http://example.com/" := by
  let := exampleRecordings.crates
  have hrun : Reports (inspect (.calm exampleRedirect) ⟨"http://example.com/", {}⟩)
      fun report _ => report.http.getLast?.map HttpHop.url = some "http://example.com/next" ∧
        report.target.effective = "http://example.com/" := by decide +kernel
  obtain ⟨report, w, hrun, htest⟩ := exists_of_reports hrun
  exact ⟨report, w, hrun, of_decide_eq_true htest⟩

end HopWhy
