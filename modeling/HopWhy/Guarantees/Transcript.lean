import HopWhy.Runs.Transcript

/-!
# What the report tells about the servers

The hops of a report are a transcript of the run: one hop for each request that it
sent, in order, with what the server answered to that request. A sample is the
beginning of the body, and its base64 text is read back to it.
-/

namespace HopWhy

theorem get?_safeHeaders (headers : List (String × List UInt8)) (name : String) :
    (safeHeaders headers).get? name =
      if name ∈ safeHeaderNames then (headerValue headers name).map sanitizeHeaderValue
      else none := by
  have hpairs : safeHeaders headers = .ofList (safeHeaderNames.filterMap fun name =>
      ((headerValue headers name).map sanitizeHeaderValue).map fun value => (name, value)) := by
    simp only [safeHeaders, Option.map_map]
    rfl
  have hnodup := (keys_filterMap_sublist safeHeaderNames
    fun name => (headerValue headers name).map sanitizeHeaderValue).nodup (by decide)
  rw [hpairs, OrderedMap.get?_ofList hnodup, lookup_filterMap_key]

/-- A sanitized value is short and has tabs as its only control characters. -/
theorem sanitizeHeaderValue_clean (value : String) :
    (sanitizeHeaderValue value).toList.length ≤ 512 ∧
      ∀ c ∈ (sanitizeHeaderValue value).toList, Text.isControl c = true → c = '\t' := by
  rw [sanitizeHeaderValue, String.toList_ofList]
  constructor
  · rw [List.length_map, List.length_take]
    exact Nat.min_le_left _ _
  · intro c hc hcontrol
    obtain ⟨b, -, rfl⟩ := List.mem_map.mp hc
    split_ifs at hcontrol ⊢ with hb
    · exact absurd hcontrol (by decide)
    · by_contra htab
      exact hb ⟨hcontrol, htab⟩

/-- What a body delivers until it ends or a read of it fails. -/
def delivered : List BodyRead → List UInt8
  | .data octets :: rest => if octets = [] then [] else octets ++ delivered rest
  | _ => []

theorem bodySample_eq {limit : ℕ} {body : List BodyRead} {read : List UInt8}
    (h : bodySample limit body = some read) : read = (delivered body).take limit := by
  induction body generalizing limit read with
  | nil =>
    rcases limit with _ | limit
    · cases h
      rfl
    · cases h
      rfl
  | cons b rest ih =>
    rcases limit with _ | limit
    · cases h
      rfl
    · rcases b with octets | _
      · rw [bodySample] at h
        rw [delivered]
        split_ifs at h ⊢
        · cases h
          rfl
        · obtain ⟨later, hlater, rfl⟩ := Option.map_eq_some_iff.mp h
          rw [List.take_append, ih hlater]
      · cases h

section

variable [Crates]

/-- The sample of a response. -/
def sampleOf (options : InspectionOptions) (response : Response) : List UInt8 :=
  (delivered response.body).take options.maxBodyBytes.toNat

/-- The hop says what the server has answered to a request for the URL. -/
structure Quotes (options : InspectionOptions) (requested : Url) (response : Response)
    (hop : HttpHop) : Prop where
  url : hop.url = redactUrl requested options.showQueryValues
  status : hop.status = response.status
  version : hop.version = versionName response.version
  declared : hop.declaredContentLength = response.contentLength
  headers : ∀ name, hop.headers.get? name = if name ∈ safeHeaderNames then
    (headerValue response.headers name).map sanitizeHeaderValue else none
  clean : ∀ name value, hop.headers.get? name = some value → value.toList.length ≤ 512 ∧
    ∀ c ∈ value.toList, Text.isControl c = true → c = '\t'
  returned : hop.returnedBodyBytes.toNat = (sampleOf options response).length
  digest : hop.bodySampleSha256 = sha256Hex (sampleOf options response)
  truncated : hop.bodyTruncated = true ↔
    options.maxBodyBytes.toNat < (delivered response.body).length
  /-- The text of the sample is read back to it. -/
  sample : hop.bodySampleBase64.map (fun text => Text.fromBase64 text.toList) =
    if options.includeBodySample then some (some (sampleOf options response)) else none

theorem quotes_hopOf {options : InspectionOptions} (hvalid : OptionsValid options)
    {response : Response} {read : List UInt8}
    (h : bodySample (readLimit options) response.body = some read) (requested : Url) (i : ℕ)
    (location : Option String) : Quotes options requested response
      (hopOf response i (redactUrl requested options.showQueryValues) location options read) := by
  have hlimit : readLimit options = options.maxBodyBytes.toNat + 1 := by
    have hbody := hvalid.body
    rw [readLimit]
    omega
  have hread := bodySample_eq h
  rw [hlimit] at hread
  -- The octet past the limit tells whether there is more.
  have hsample : read.take options.maxBodyBytes.toNat = sampleOf options response := by
    rw [hread, List.take_take, sampleOf, Nat.min_eq_left (Nat.le_succ _)]
  have hlength : read.length =
      min (options.maxBodyBytes.toNat + 1) (delivered response.body).length := by
    rw [hread, List.length_take]
  have hheaders := get?_safeHeaders response.headers
  constructor
  · rfl
  · rfl
  · rfl
  · rfl
  · exact hheaders
  · intro name value hvalue
    change (safeHeaders response.headers).get? name = some value at hvalue
    rw [hheaders] at hvalue
    split_ifs at hvalue
    obtain ⟨text, -, rfl⟩ := Option.map_eq_some_iff.mp hvalue
    exact sanitizeHeaderValue_clean text
  · have hbody := hvalid.body
    have hshort : (sampleOf options response).length ≤ options.maxBodyBytes.toNat := by
      rw [sampleOf, List.length_take]
      exact Nat.min_le_left _ _
    change (UInt64.ofNat (read.take options.maxBodyBytes.toNat).length).toNat = _
    rw [hsample, UInt64.toNat_ofNat', Nat.mod_eq_of_lt (by omega)]
  · change sha256Hex (read.take options.maxBodyBytes.toNat) = _
    rw [hsample]
  · change decide (options.maxBodyBytes.toNat < read.length) = true ↔ _
    rw [decide_eq_true_iff]
    omega
  · change (if options.includeBodySample then
      some (Text.base64 (read.take options.maxBodyBytes.toNat)) else none).map _ = _
    split_ifs
    · rw [hsample, Option.map_some, Text.base64, String.toList_ofList,
        Text.fromBase64_base64Chars]
    · rfl

variable {env : Environment}

/-- The session has these requests and these hops. -/
structure Stands (before : List Sent) (done : List HttpHop) (s : Session (World env)) : Prop where
  sent : s.world.sent = before
  completed : s.world.completed = done

omit [Crates] in
theorem Still.stands {before : List Sent} {done : List HttpHop} {s t : Session (World env)}
    (h : Still s t) (hs : Stands before done s) : Stands before done t :=
  ⟨h.sent.trans hs.sent, h.completed.trans hs.completed⟩

omit [Crates] in
theorem Silent.triple {α : Type} {m : Live env α} (h : Silent m) (before : List Sent)
    (done : List HttpHop) : Prog.Triple (Stands before done) m
      (fun _ t => Stands before done t) (fun _ t => Stands before done t) := by
  intro s hs
  have hstill := h s
  rcases hm : m s with ⟨error | a, t⟩ <;> rw [hm] at hstill
  · exact hstill.stands hs
  · exact hstill.stands hs

/-- At most one request more has been sent, and it has left no hop. -/
def Unanswered (before : List Sent) (done : List HttpHop) (s : Session (World env)) : Prop :=
  ∃ rest, rest.length ≤ 1 ∧ Stands (before ++ rest) done s

omit [Crates] in
theorem Stands.unanswered {before : List Sent} {done : List HttpHop} {s : Session (World env)}
    (h : Stands before done s) : Unanswered before done s :=
  ⟨[], Nat.zero_le _, by rwa [List.append_nil]⟩

theorem responseToHop_triple (response : Response) (i timeout : ℕ) (url : String)
    (location : Option String) (options : InspectionOptions) (before : List Sent)
    (done : List HttpHop) :
    Prog.Triple (Stands before done)
      (responseToHop response i timeout url location options : Live env HttpHop)
      (fun hop t => Stands before done t ∧ ∃ read,
        bodySample (readLimit options) response.body = some read ∧
          hop = hopOf response i url location options read)
      (fun _ t => Stands before done t) := by
  intro s hs
  have hstill := (Silent.responseToHop response i timeout url location options s).stands hs
  obtain ⟨reads, hcases⟩ := responseToHop_cases response i timeout url location options s
  rcases hr : responseToHop response i timeout url location options s with ⟨error | hop, t⟩ <;>
    rw [hr] at hstill hcases
  · exact hstill
  · obtain ⟨read, hsample, hhop, -⟩ | ⟨-, herror, -⟩ := hcases
    · exact ⟨hstill, read, hsample, Except.ok.inj hhop⟩
    · cases herror

/-- The hop says what the environment answered to the request. -/
def Tells (env : Environment) (options : InspectionOptions) (sent : Sent) (hop : HttpHop) : Prop :=
  sent.method = options.method ∧ ∃ response, env.respond sent.number = .ok response ∧
    Quotes options sent.url response hop

theorem exchange_triple {options : InspectionOptions} (hvalid : OptionsValid options) (i : ℕ)
    (current : Url) (proxy : ResolvedProxy) (address : SocketAddr) (before : List Sent)
    (done : List HttpHop) :
    Prog.Triple (Stands before done) (exchange i current proxy address options : Live env Exchange)
      (fun e t => ∃ number response, env.respond number = .ok response ∧
        Quotes options current response e.hop ∧
        e.nextUrl = (followLocation current response).1 ∧
        Stands (before ++ [⟨number, options.method, current⟩]) done t)
      (fun _ t => Unanswered before done t) := by
  have hquiet : ∀ {α : Type} {m : Live env α}, Silent m → Prog.Triple (Stands before done) m
      (fun _ t => Stands before done t) (fun _ t => Unanswered before done t) := fun h =>
    (h.triple before done).conseq (fun _ h => h) (fun _ _ h => h) fun _ _ h => h.unanswered
  apply (hquiet (Silent.buildHttpClient proxy address)).bind
  intro client
  apply (hquiet (Silent.startProbe _ _)).bind
  intro probe
  apply (hquiet Silent.instant).bind
  intro started
  have hsend : Prog.Triple (Stands before done)
      (sendRequest client options.method current : Live env _)
      (fun r t => ∃ number, env.respond number = r ∧
        Stands (before ++ [⟨number, options.method, current⟩]) done t)
      (fun _ t => Unanswered before done t) := by
    intro s hs
    refine ⟨s.world.step, rfl, ?_, hs.completed⟩
    change (s.world.interact _).sent = _
    rw [World.sent_interact, hs.sent]
    rfl
  apply hsend.bind
  intro r s hs
  obtain ⟨number, hrespond, hs⟩ := hs
  -- From here on the request is one of those that have been sent.
  have hlater : ∀ {α : Type} {m : Live env α}, Silent m →
      Prog.Triple (Stands (before ++ [⟨number, options.method, current⟩]) done) m
        (fun _ t => Stands (before ++ [⟨number, options.method, current⟩]) done t)
        (fun _ t => Unanswered before done t) := fun h =>
    (h.triple _ done).conseq (fun _ h => h) (fun _ _ h => h) fun _ _ h =>
      ⟨[_], Nat.le_refl 1, h⟩
  rcases r with error | response
  · apply (hlater (Silent.finishProbe probe started "request_failed")).bind _ s hs
    intro _ t ht
    exact ⟨[_], Nat.le_refl 1, ht⟩
  · apply (hlater (Silent.finishProbe probe started "response_received")).bind _ s hs
    intro _
    have hread : Prog.Triple (Stands (before ++ [⟨number, options.method, current⟩]) done)
        (responseToHop response i client.timeout (redactUrl current options.showQueryValues)
          ((followLocation current response).1.map fun url =>
            redactUrl url options.showQueryValues) options : Live env HttpHop)
        (fun hop t => Stands (before ++ [⟨number, options.method, current⟩]) done t ∧ ∃ read,
          bodySample (readLimit options) response.body = some read ∧
            hop = hopOf response i (redactUrl current options.showQueryValues) _ options read)
        (fun _ t => Unanswered before done t) :=
      (responseToHop_triple response i _ _ _ options _ done).conseq (fun _ h => h)
        (fun _ _ h => h) fun _ _ h => ⟨[_], Nat.le_refl 1, h⟩
    apply hread.bind
    rintro hop t ⟨ht, read, hsample, rfl⟩
    exact ⟨number, response, hrespond, quotes_hopOf hvalid hsample current i _, rfl, ht⟩

/-- The hops are the transcript of all requests. -/
structure Told (options : InspectionOptions) (hops : List HttpHop) (s : Session (World env)) :
    Prop where
  told : List.Forall₂ (Tells env options) s.world.sent hops
  completed : s.world.completed = hops

/-- The finished hops are a transcript, up to a request that has left none. -/
def Lost (options : InspectionOptions) (s : Session (World env)) : Prop :=
  ∃ answered rest, s.world.sent = answered ++ rest ∧ rest.length ≤ 1 ∧
    List.Forall₂ (Tells env options) answered s.world.completed

theorem Told.lost {options : InspectionOptions} {hops : List HttpHop} {s : Session (World env)}
    (h : Told options hops s) : Lost options s :=
  ⟨_, [], (List.append_nil _).symm, Nat.zero_le _, h.completed ▸ h.told⟩

theorem hopRound_triple {options : InspectionOptions} (hvalid : OptionsValid options) (i : ℕ)
    (b : HopState) : Prog.Triple (fun s => Told options b.hops s)
      (hopRound options i b : Live env _)
      (fun r t => Told options (Sum.elim HopState.hops Prod.fst r) t)
      (fun _ t => Lost options t) := by
  rintro s ⟨htold, hdone⟩
  -- The round is followed from the requests and the hops that it starts with.
  refine (?_ : Prog.Triple (Stands s.world.sent b.hops) _ _ _) s ⟨rfl, hdone⟩
  apply ((Silent.hopEndpoint options i b).triple _ _).attempt.bind
  rintro (error | ⟨proxy, address⟩)
  · rintro t ht
    exact ⟨ht.sent ▸ htold, ht.completed⟩
  · apply ((exchange_triple hvalid i b.current proxy address s.world.sent b.hops).conseq
      (fun _ h => h) (fun _ _ h => h) _).bind
    · rintro e t ⟨number, response, hrespond, hquotes, -, ht⟩
      have hfinished : Told options (b.hops ++ [e.hop])
          { t with world := t.world.complete e.hop } := by
        constructor
        · change List.Forall₂ _ t.world.sent _
          rw [ht.sent]
          exact List.rel_append htold (.cons ⟨rfl, response, hrespond, hquotes⟩ .nil)
        · change t.world.completed ++ [e.hop] = _
          rw [ht.completed]
      change Prog.Post _ _ (.ok (afterHop options i b proxy address e), _)
      rcases hafter : afterHop options i b proxy address e with b' | r
      · change Told options b'.hops _
        rw [(afterHop_eq_inl hafter).2.2.2]
        exact hfinished
      · change Told options r.1 _
        rw [afterHop_eq_inr hafter]
        exact hfinished
    · rintro error t ⟨rest, hrest, ht⟩
      exact ⟨_, rest, ht.sent, hrest, ht.completed ▸ htold⟩

theorem runHttp_triple {options : InspectionOptions} (hvalid : OptionsValid options) (url : Url)
    (proxy : ResolvedProxy) (address : SocketAddr) :
    Prog.Triple (fun s => Told options [] s) (runHttp url proxy address options : Live env _)
      (fun r t => Told options r.1 t) (fun _ t => Lost options t) := by
  refine Prog.Triple.loop (fun _ (b : HopState) (s : Session (World env)) => Told options b.hops s)
    (options.maxRedirects.toNat + 1) ?_ ?_ _ 0 ⟨url, [], proxy, address⟩ (Nat.zero_add _)
  · intro i b _
    apply (hopRound_triple hvalid i b).conseq (fun _ h => h)
    · rintro (b' | r) t ht
      · exact ht
      · exact ht
    · exact fun _ _ h => h
  · intro b s hs
    exact hs

omit [Crates] in
theorem silent_stopWith {α : Type} (draft : Draft) (name : PhaseName) (started : ℕ)
    (error : AppError) :
    Silent (stopWith draft name started error : Observe (World env) α) :=
  (Silent.elapsedMs _).bind fun _ => Silent.fail _

/-- The stages before HTTP are silent. -/
theorem silent_observeEndpoint (proxy : ResolvedProxy) (draft : Draft) :
    Silent (observeEndpoint (liveBackend env) proxy draft) := by
  apply Silent.bind
  · apply Silent.instant.bind
    intro started
    apply (Silent.resolveAddresses proxy draft.options).attempt.bind
    rintro (error | ⟨all, permitted⟩)
    · exact silent_stopWith _ _ _ _
    · apply Silent.ite (silent_stopWith _ _ _ _)
      exact (Silent.elapsedMs _).bind fun _ => Silent.pure _
  · rintro ⟨draft, permitted⟩
    apply Silent.instant.bind
    intro started
    apply (Silent.connectFirst permitted draft.options).attempt.bind
    rintro (error | address)
    · exact silent_stopWith _ _ _ _
    · exact (Silent.elapsedMs _).bind fun _ => Silent.pure _

theorem silent_observeTls (parsed : ParsedTarget) (proxy : ResolvedProxy) (address : SocketAddr)
    (draft : Draft) : Silent (observeTls (liveBackend env) parsed proxy address draft) := by
  apply Silent.instant.bind
  intro started
  apply Silent.ite (Silent.pure _)
  apply Silent.ite (Silent.pure _)
  apply (Silent.probeTls address parsed.summary.host draft.options.showAddresses).attempt.bind
  rintro (error | summary)
  · exact silent_stopWith _ _ _ _
  · exact (Silent.elapsedMs _).bind fun _ => Silent.pure _

theorem Still.told {options : InspectionOptions} {hops : List HttpHop} {s t : Session (World env)}
    (h : Still s t) (hs : Told options hops s) : Told options hops t :=
  ⟨h.sent ▸ hs.told, h.completed.trans hs.completed⟩

theorem Still.lost {options : InspectionOptions} {s t : Session (World env)} (h : Still s t)
    (hs : Lost options s) : Lost options t := by
  rw [Lost, h.sent, h.completed]
  exact hs

/-- The draft has all hops, or it has none. -/
def Transcribed (options : InspectionOptions) (draft : Draft) (s : Session (World env)) : Prop :=
  Told options draft.http s ∨ draft.http = [] ∧ Lost options s

theorem transcribed_observeHttp (parsed : ParsedTarget) (proxy : ResolvedProxy)
    (address : SocketAddr) {draft : Draft} (hvalid : OptionsValid draft.options)
    (hfresh : draft.http = []) {s : Session (World env)} (hs : Told draft.options [] s) :
    Transcribed draft.options
      (settle (observeHttp (liveBackend env) parsed proxy address draft s).1)
      (observeHttp (liveBackend env) parsed proxy address draft s).2 := by
  obtain ⟨hconcluded, hend⟩ := observeHttp_run parsed proxy address draft hfresh s
  rw [hend]
  have hchain := runHttp_triple hvalid parsed.url proxy address s.tick ((still_tick s).told hs)
  rcases hrun : runHttp parsed.url proxy address draft.options s.tick with
    ⟨error | ⟨hops, failure⟩, t⟩
  · rw [hrun] at hchain hconcluded
    cases hconcluded with
    | lost http phases => exact Or.inr ⟨http, (still_tick t).lost hchain⟩
  · rw [hrun] at hchain hconcluded
    cases hconcluded with
    | reached http phases =>
      refine Or.inl ?_
      rw [http]
      exact (still_tick t).told hchain

theorem keeps_observeEndpoint (proxy : ResolvedProxy) (draft : Draft) (s : Session (World env)) :
    Prog.Post (fun r _ => draft.Keeps r.1) (fun d _ => draft.Keeps d)
      (observeEndpoint (liveBackend env) proxy draft s) := by
  obtain ⟨-, -, -, -, ⟨d, hd, hkeeps, -⟩ | ⟨d, address, hd, hkeeps, -⟩⟩ :=
    observeEndpoint_effect proxy draft s
  · exact .of_error hd hkeeps
  · exact .of_ok hd hkeeps

theorem keeps_observeTls (parsed : ParsedTarget) (proxy : ResolvedProxy) (address : SocketAddr)
    (draft : Draft) (s : Session (World env)) :
    Prog.Post (fun d _ => draft.Keeps d) (fun d _ => draft.Keeps d)
      (observeTls (liveBackend env) parsed proxy address draft s) := by
  obtain ⟨-, -, ⟨d, hd, hkeeps, -⟩ | ⟨d, hd, hkeeps, -⟩⟩ :=
    observeTls_effect parsed proxy address draft s
  · exact .of_error hd hkeeps
  · exact .of_ok hd hkeeps

theorem transcribed_observeAll (parsed : ParsedTarget) (proxy : ResolvedProxy) {draft : Draft}
    (hvalid : OptionsValid draft.options) (hfresh : draft.http = []) {s : Session (World env)}
    (hs : Told draft.options [] s) :
    Transcribed draft.options (settle (observeAll (liveBackend env) parsed proxy draft s).1)
      (observeAll (liveBackend env) parsed proxy draft s).2 := by
  rw [observeAll_eq]
  have hendpoint := (silent_observeEndpoint proxy draft s).told hs
  have hkeeps := keeps_observeEndpoint proxy draft s
  rcases hrun : observeEndpoint (liveBackend env) proxy draft s with ⟨d₁ | ⟨d₁, address⟩, t⟩ <;>
    rw [hrun] at hendpoint hkeeps
  · rw [Prog.bind_error hrun]
    exact Or.inr ⟨hkeeps.http.trans hfresh, hendpoint.lost⟩
  rw [Prog.bind_ok hrun]
  have hsecure := (silent_observeTls parsed proxy address d₁ t).told hendpoint
  have hkeeps' := keeps_observeTls parsed proxy address d₁ t
  dsimp only
  rcases hrun' : observeTls (liveBackend env) parsed proxy address d₁ t with ⟨d₂ | d₂, u⟩ <;>
    rw [hrun'] at hsecure hkeeps'
  · rw [Prog.bind_error hrun']
    exact Or.inr ⟨(hkeeps.trans hkeeps').http.trans hfresh, hsecure.lost⟩
  rw [Prog.bind_ok hrun']
  -- The HTTP stage reads the options of its draft, which are those of the run.
  have hboth : draft.Keeps d₂ := hkeeps.trans hkeeps'
  rw [← hboth.options] at hvalid hsecure ⊢
  exact transcribed_observeHttp parsed proxy address hvalid (hboth.http.trans hfresh) hsecure

theorem transcript_finalized {options : InspectionOptions}
    {run : Except Draft Draft × Session (World env)}
    (h : Transcribed options (settle run.1) run.2) :
    List.Forall₂ (Tells env options) (finalized run).2.sent (finalized run).1.http ∧
        (finalized run).2.completed = (finalized run).1.http ∨
      (finalized run).1.http = [] ∧ ∃ answered rest,
        (finalized run).2.sent = answered ++ rest ∧ rest.length ≤ 1 ∧
          List.Forall₂ (Tells env options) answered (finalized run).2.completed := by
  rw [finalized_http, finalized_completed]
  obtain htold | ⟨hnone, hlost⟩ := h
  · exact Or.inl ⟨((still_tick run.2).told htold).told, htold.completed⟩
  · exact Or.inr ⟨hnone, (still_tick run.2).lost hlost⟩

/-- The hops of a report are a transcript of the run: hop for hop, what the server answered
to the requests in the order in which they were sent. A report without hops leaves at most
one request unanswered, and the hops that were finished are the transcript of the others. -/
theorem inspect_transcript {spec : InspectSpec} {report : Report} {w : World env}
    (h : inspect env spec = (.ok report, w)) :
    List.Forall₂ (Tells env spec.options) w.sent report.http ∧ w.completed = report.http ∨
      report.http = [] ∧ ∃ answered rest, w.sent = answered ++ rest ∧ rest.length ≤ 1 ∧
        List.Forall₂ (Tells env spec.options) answered w.completed := by
  obtain ⟨o, ho⟩ := inspectWithBackend_eq_ok (liveBackend env) h
  obtain ⟨rfl, rfl⟩ := Prod.mk.inj ho.symm
  have hstart : Told spec.options [] (openingSession spec.options (World.start env)) := by
    constructor
    · exact .nil
    · rfl
  have hvalid : OptionsValid (o.draft env.wallClock (World.start env)).options :=
    validateOptions_eq_ok o.valid
  exact transcript_finalized (transcribed_observeAll o.parsed o.proxy hvalid rfl hstart)

end

/-- The front page refers to `/next`, and the report tells of both requests. -/
theorem frontPage_transcript :
    letI := exampleRecordings.crates
    ∃ report w, inspect (.calm exampleRedirect) ⟨"http://example.com/", {}⟩ = (.ok report, w) ∧
      report.http.length = 2 ∧
      List.Forall₂ (Tells (.calm exampleRedirect) {}) w.sent report.http ∧
      w.completed = report.http := by
  let := exampleRecordings.crates
  have hrun : Reports (inspect (.calm exampleRedirect) ⟨"http://example.com/", {}⟩)
      fun report _ => report.http.length = 2 := by decide +kernel
  obtain ⟨report, w, hrun, htest⟩ := exists_of_reports hrun
  have htwo : report.http.length = 2 := of_decide_eq_true htest
  obtain ⟨htells, hdone⟩ | ⟨hnone, -⟩ := inspect_transcript hrun
  · exact ⟨report, w, hrun, htwo, htells, hdone⟩
  · rw [hnone] at htwo
    cases htwo

end HopWhy
