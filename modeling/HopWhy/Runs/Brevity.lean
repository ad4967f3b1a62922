import HopWhy.Runs.Inspection

/-!
# What a run writes in its own words

The texts that a run brings into its report by itself are short. Longer ones come
from outside: URLs, header values, addresses, and the messages of the errors that
quote a URL.
-/

namespace HopWhy

/-- A text as short as those of the tool. -/
def Brief (text : String) : Prop := text.utf8ByteSize ≤ 128

instance : DecidablePred Brief := fun _ => Nat.decLe _ _

/-- The codes of the errors whose messages quote a URL. -/
def quotingCodes : List String :=
  ["invalid_target", "invalid_proxy_url", "unsupported_proxy_scheme"]

structure BriefError (code message : String) : Prop where
  named : Brief code
  worded : code ∉ quotingCodes → Brief message

instance (code message : String) : Decidable (BriefError code message) :=
  decidable_of_iff (Brief code ∧ (code ∉ quotingCodes → Brief message))
    ⟨fun h => ⟨h.1, h.2⟩, fun h => ⟨h.named, h.worded⟩⟩

/-- An error that may quote a URL. -/
theorem briefError_quoting {code : String} (h : code ∈ quotingCodes) (message : String) :
    BriefError code message :=
  ⟨(by decide : ∀ code ∈ quotingCodes, Brief code) code h, fun hcode => absurd h hcode⟩

/-- The hop is one of a response. -/
def AnsweredHop [Crates] (options : InspectionOptions) (hop : HttpHop) : Prop :=
  ∃ response sequence url location read, hop = hopOf response sequence url location options read

variable {env : Environment}

/-- The names that a handshake negotiates are brief. -/
structure BriefSession (session : TlsSession) : Prop where
  protocol : ∀ name ∈ session.protocolVersion, Brief name
  suite : ∀ name ∈ session.cipherSuite, Brief name
  alpn : ∀ octets ∈ session.alpnProtocol, Brief (Text.fromUtf8Lossy octets)

/-- The summary is one of a handshake. -/
def Negotiated [Crates] (env : Environment) (summary : TlsSummary) : Prop :=
  ∃ n session, (env.handshake n).outcome = some session ∧ summary = summarizeTls session

/-- The outcomes of the recorded probes are brief. -/
def BriefProbes (s : Session (World env)) : Prop :=
  ∀ record ∈ s.tracker.probes, Brief record.outcome

/-- The program returns a value in `Q` or fails, with errors and records in words of the tool. -/
def Modest {α : Type} (m : Live env α) (Q : α → Prop) : Prop :=
  Prog.Triple BriefProbes m (fun a t => Q a ∧ BriefProbes t)
    (fun error t => BriefError error.code error.message ∧ BriefProbes t)

namespace Modest

variable {α β : Type} {m : Live env α} {P : α → Prop} {Q : β → Prop}

theorem pure {a : α} (h : P a) : Modest (Pure.pure a : Live env α) P :=
  fun _ hs => ⟨h, hs⟩

theorem fail {error : AppError} (h : BriefError error.code error.message) :
    Modest (Prog.fail error : Live env α) P := fun _ hs => ⟨h, hs⟩

theorem ofExcept {r : AppResult α} (hok : ∀ a, r = .ok a → P a)
    (herror : ∀ error, r = .error error → BriefError error.code error.message) :
    Modest (Prog.ofExcept r : Live env α) P :=
  Prog.Triple.ofExcept (fun a h _ hs => ⟨hok a h, hs⟩) (fun error h _ hs => ⟨herror error h, hs⟩)

theorem bind {f : α → Live env β} (h : Modest m P) (h' : ∀ a, P a → Modest (f a) Q) :
    Modest (m >>= f) Q :=
  Prog.Triple.bind h fun a s ha => h' a ha.1 s ha.2

theorem ite {c : Prop} [Decidable c] {n : Live env α} (h : Modest m P) (k : Modest n P) :
    Modest (if c then m else n) P := by
  split_ifs
  · exact h
  · exact k

theorem state : Modest (Prog.state : Live env _) fun _ => True := fun _ hs => ⟨trivial, hs⟩

theorem instant : Modest (HopWhy.instant : Live env ℕ) fun _ => True := fun _ hs => ⟨trivial, hs⟩

theorem elapsedMs (started : ℕ) : Modest (HopWhy.elapsedMs started : Live env _) fun _ => True :=
  fun _ hs => ⟨trivial, hs⟩

/-- A change of the tracker that records nothing. -/
theorem modifyTracker {f : Tracker → Tracker} (h : ∀ tracker, (f tracker).probes = tracker.probes) :
    Modest (HopWhy.modifyTracker f : Live env Unit) fun _ => True := by
  intro s hs
  refine ⟨trivial, ?_⟩
  rw [BriefProbes, h s.tracker]
  exact hs

theorem interact {answer : ℕ → α × Interaction} (h : ∀ n, P (answer n).1) :
    Modest (HopWhy.interact answer : Live env α) P := fun s hs => ⟨h s.world.step, hs⟩

theorem remaining : Modest (Tracker.remaining : Live env ℕ) fun _ => True :=
  instant.bind fun _ _ => state.bind fun _ _ => ite (pure trivial) (fail (by decide))

theorem startProbe (kind : ProbeKind) (destination : String) :
    Modest (Tracker.startProbe kind destination : Live env ActiveProbe) fun _ => True :=
  remaining.bind fun _ _ => state.bind fun _ _ =>
    ite (fail (by decide)) ((elapsedMs _).bind fun _ _ => pure trivial)

theorem finishProbe (probe : ActiveProbe) (started : ℕ) {outcome : String} (h : Brief outcome) :
    Modest (Tracker.finishProbe probe started outcome : Live env Unit) fun _ => True :=
  fun _ hs => ⟨trivial, List.forall_mem_append.mpr
    ⟨hs, fun _ hrecord => List.mem_singleton.mp hrecord ▸ h⟩⟩

/-- A probe that is closed before the stage fails. -/
theorem finish_fail (probe : ActiveProbe) (started : ℕ) {outcome : String} {error : AppError}
    (houtcome : Brief outcome) (herror : BriefError error.code error.message) :
    Modest (Tracker.finishProbe probe started outcome >>= fun _ => Prog.fail error : Live env α)
      P :=
  (finishProbe probe started houtcome).bind fun _ _ => fail herror

theorem resolveAddresses (proxy : ResolvedProxy) (options : InspectionOptions) :
    Modest (HopWhy.resolveAddresses proxy options : Live env _) fun _ => True := by
  apply (startProbe _ _).bind
  intro probe _
  apply instant.bind
  intro started _
  apply Modest.bind (P := fun _ => True) (interact fun _ => trivial)
  rintro (_ | answer) _
  · exact finish_fail _ _ (by decide) (by decide)
  · apply (finishProbe _ _ (by decide)).bind
    intro _ _
    exact ite (fail (by decide)) (pure trivial)

variable [Crates]

theorem connectFirst (addresses : List SocketAddr) (options : InspectionOptions) :
    Modest (HopWhy.connectFirst addresses options : Live env _) fun _ => True := by
  apply Prog.Triple.firstOf (fun _ => BriefProbes) _ ?_ ?_ [] _ rfl
  · rintro done address rest -
    have hone : Modest (connectOne options address : Live env _) fun _ => True := by
      apply (startProbe _ _).bind
      intro probe _
      apply instant.bind
      intro started _
      apply remaining.bind
      intro timeout _
      apply Modest.bind (P := fun _ => True) (interact fun _ => trivial)
      intro connected _
      apply ite
      · exact (finishProbe _ _ (by decide)).bind fun _ _ => pure trivial
      · exact (finishProbe _ _ (by decide)).bind fun _ _ => pure trivial
    apply hone.conseq (fun _ hs => hs) ?_ fun _ _ he => he
    rintro (_ | connected) t ht
    · exact ht.2
    · exact ht
  · exact fail (by decide)

theorem probeTls (address : SocketAddr) (serverHost : String) (showAddresses : Bool) :
    Modest (HopWhy.probeTls address serverHost showAddresses : Live env _) (Negotiated env) := by
  have hround : ∀ probe started timeout,
      Modest (handshakeRound probe started timeout : Live env Unit) fun _ => True := by
    intro probe started timeout
    apply remaining.bind
    intro left _
    exact ite (finish_fail _ _ (by decide) (by decide)) (interact fun _ => trivial)
  have hhandshake : ∀ probe started timeout outcome rounds,
      Modest (completeHandshake probe started timeout outcome rounds : Live env _)
        fun session => outcome = some session := by
    intro probe started timeout outcome rounds
    induction rounds with
    | zero =>
      apply (hround _ _ _).bind
      intro _ _
      rcases outcome with _ | session
      · exact finish_fail _ _ (by decide) (by decide)
      · exact pure rfl
    | succ rounds ih => exact (hround _ _ _).bind fun _ _ => ih
  apply (startProbe _ _).bind
  intro probe _
  apply instant.bind
  intro started _
  apply remaining.bind
  intro left _
  apply Modest.bind (P := fun r => ∃ n, r.2 = env.handshake n) (interact fun n => ⟨n, rfl⟩)
  rintro ⟨connected, handshake⟩ ⟨n, rfl⟩
  apply ite (finish_fail _ _ (by decide) (by decide))
  apply ite (finish_fail _ _ (by decide) (by decide))
  apply ite (finish_fail _ _ (by decide) (by decide))
  apply (hhandshake _ _ _ _ _).bind
  intro session hsession
  exact (finishProbe _ _ (by decide)).bind fun _ _ => pure ⟨n, session, hsession, rfl⟩

omit [Crates] in
theorem readToEnd (timeout limit : ℕ) (body : List BodyRead) :
    Modest (HopWhy.readToEnd timeout limit body : Live env _) fun _ => True := by
  have hread : Modest (HopWhy.interact fun _ => ((), .bodyRead timeout) : Live env Unit)
      fun _ => True := interact fun _ => trivial
  induction body generalizing limit with
  | nil =>
    rcases limit with _ | limit
    · exact pure trivial
    · exact hread.bind fun _ _ => pure trivial
  | cons read rest ih =>
    rcases limit with _ | limit
    · exact pure trivial
    · rcases read with octets | _
      · exact hread.bind fun _ _ => ite (pure trivial) ((ih _).bind fun _ _ => pure trivial)
      · exact hread.bind fun _ _ => fail (by decide)

theorem responseToHop (response : Response) (sequence timeout : ℕ) (url : String)
    (location : Option String) (options : InspectionOptions) :
    Modest (HopWhy.responseToHop response sequence timeout url location options : Live env _)
      (AnsweredHop options) :=
  (readToEnd _ _ _).bind fun read _ => (modifyTracker fun _ => rfl).bind fun _ _ =>
    pure ⟨response, sequence, url, location, read, rfl⟩

omit [Crates] in
theorem buildHttpClient (proxy : ResolvedProxy) (address : SocketAddr) :
    Modest (HopWhy.buildHttpClient proxy address : Live env _) fun _ => True :=
  remaining.bind fun _ _ => ite (fail (by decide)) (state.bind fun _ _ =>
    ite (pure trivial) (fail (by decide)))

end Modest

theorem classifyHttpError_brief (error : SendError) (scheme : String) :
    BriefError (classifyHttpError error scheme).code (classifyHttpError error scheme).message := by
  unfold classifyHttpError
  split_ifs <;> decide

theorem parseTarget_brief [Crates] {raw : String} {options : InspectionOptions}
    {error : AppError} (h : parseTarget raw options = .error error) :
    BriefError error.code error.message := by
  unfold parseTarget acceptTarget at h
  dsimp only at h
  repeat' split at h
  all_goals cases h
  · exact briefError_quoting (by decide : "invalid_target" ∈ quotingCodes) _
  all_goals decide

section

variable [Crates] {envVar : String → Option String} {target : Url} {options : InspectionOptions}

theorem resolveProxy_brief {error : AppError}
    (h : resolveProxy envVar target options = .error error) :
    BriefError error.code error.message := by
  unfold resolveProxy at h
  dsimp only at h
  split_ifs at h
  split at h
  · cases h
  split at h
  · cases h
  · rename_i environment hfirst
    have hkey := proxyKeys_subset _ (firstEnvironmentValue_key hfirst)
    have hbrief : ∀ key ∈ proxyVariables, Brief (key ++ " does not include a proxy host") ∧
        Brief (key ++ " does not imply a proxy port") := by decide
    unfold selectProxy at h
    repeat' split at h
    all_goals cases h
    · exact briefError_quoting (by decide : "invalid_proxy_url" ∈ quotingCodes) _
    · exact briefError_quoting (by decide : "unsupported_proxy_scheme" ∈ quotingCodes) _
    · exact ⟨(by decide : Brief "missing_proxy_host"), fun _ => (hbrief _ hkey).1⟩
    · exact ⟨(by decide : Brief "missing_proxy_port"), fun _ => (hbrief _ hkey).2⟩

/-- A proxy summary in which only the endpoint is from outside. -/
structure BriefProxy (summary : ProxySummary) : Prop where
  source : ∀ key ∈ summary.source, Brief key
  digest : ∀ digest ∈ summary.configurationSha256, ∃ text, digest = sha256Text text
  bypass : ∀ reason ∈ summary.bypassReason, Brief reason

theorem resolveProxy_briefProxy {proxy : ResolvedProxy}
    (h : resolveProxy envVar target options = .ok proxy) : BriefProxy proxy.summary := by
  unfold resolveProxy at h
  dsimp only at h
  split_ifs at h
  · cases h
    exact ⟨nofun, nofun, fun _ hreason => Option.mem_some.mp hreason ▸ by decide⟩
  split at h
  · rename_i key hkey
    cases h
    refine ⟨nofun, nofun, fun _ hreason => ?_⟩
    obtain rfl := Option.mem_some.mp hreason
    have hmem : key ∈ ["no_proxy", "NO_PROXY"] := by
      unfold exemption at hkey
      split at hkey
      · rename_i noProxy hfirst
        split_ifs at hkey
        cases hkey
        exact firstEnvironmentValue_key hfirst
      · cases hkey
    exact (by decide : ∀ key ∈ ["no_proxy", "NO_PROXY"], Brief ("matched " ++ key)) key hmem
  split at h
  · cases h
    exact ⟨nofun, nofun, nofun⟩
  · rename_i environment hfirst
    have hkey := proxyKeys_subset _ (firstEnvironmentValue_key hfirst)
    have hbrief : ∀ key ∈ proxyVariables, Brief key := by decide
    unfold selectProxy at h
    repeat' split at h
    all_goals cases h
    exact ⟨fun _ hsource => Option.mem_some.mp hsource ▸ hbrief _ hkey,
      fun _ hdigest => ⟨_, (Option.mem_some.mp hdigest).symm⟩, nofun⟩

end

section

variable [Crates]

/-- What an exchange leaves beside the hop of its response. -/
structure BriefExchange (options : InspectionOptions) (x : Exchange) : Prop where
  hop : AnsweredHop options x.hop
  error : ∀ error ∈ x.redirectError, BriefError error.code error.message

theorem followLocation_brief (current : Url) (response : Response) :
    ∀ error ∈ (followLocation current response).2, BriefError error.code error.message := by
  unfold followLocation
  repeat' split
  all_goals intro error herror
  all_goals cases herror
  decide

theorem exchange_modest (sequence : ℕ) (current : Url) (proxy : ResolvedProxy)
    (address : SocketAddr) (options : InspectionOptions) :
    Modest (exchange sequence current proxy address options : Live env _)
      (BriefExchange options) := by
  apply (Modest.buildHttpClient proxy address).bind
  intro client _
  apply (Modest.startProbe _ _).bind
  intro probe _
  apply Modest.instant.bind
  intro started _
  apply Modest.bind (P := fun _ => True) (Modest.interact fun _ => trivial)
  rintro (error | response) _
  · exact Modest.finish_fail _ _ (by decide) (classifyHttpError_brief error current.scheme)
  · apply (Modest.finishProbe _ _ (by decide)).bind
    intro _ _
    apply (Modest.responseToHop _ _ _ _ _ _).bind
    intro hop hhop
    exact Modest.pure ⟨hhop, followLocation_brief current response⟩

theorem hopEndpoint_modest (options : InspectionOptions) (i : ℕ) (b : HopState) :
    Modest (hopEndpoint options i b : Live env _) fun _ => True := by
  apply Modest.ite (Modest.pure trivial)
  apply Modest.bind (P := fun _ => True)
    (Modest.ofExcept (fun _ _ => trivial) fun _ => parseTarget_brief)
  intro parsed _
  apply Modest.bind (P := fun _ => True)
    (Modest.ofExcept (fun _ _ => trivial) fun _ => resolveProxy_brief)
  intro proxy _
  apply (Modest.resolveAddresses proxy options).bind
  rintro ⟨all, permitted⟩ _
  rcases permitted with _ | ⟨address, rest⟩
  · exact Modest.fail (by decide)
  · exact Modest.pure trivial

/-- A chain of hops and what ended it. -/
structure BriefChain (options : InspectionOptions) (result : HttpResult) : Prop where
  hops : ∀ hop ∈ result.1, AnsweredHop options hop
  failure : ∀ error ∈ result.2, BriefError error.code error.message

theorem hopRound_modest (options : InspectionOptions) (i : ℕ) (b : HopState)
    (hb : ∀ hop ∈ b.hops, AnsweredHop options hop) :
    Modest (hopRound options i b : Live env _)
      (Sum.elim (fun b' => ∀ hop ∈ b'.hops, AnsweredHop options hop) (BriefChain options)) := by
  intro s hs
  have hendpoint := hopEndpoint_modest options i b s hs
  unfold hopRound
  rw [Prog.bind_apply, Prog.attempt_apply]
  rcases hr : hopEndpoint options i b s with ⟨error | ⟨proxy, address⟩, t⟩
  · rw [hr] at hendpoint
    exact ⟨⟨hb, fun _ herror => Option.mem_some.mp herror ▸ hendpoint.1⟩, hendpoint.2⟩
  · rw [hr] at hendpoint
    refine (exchange_modest i b.current proxy address options).bind ?_ t hendpoint.2
    intro x hx u hu
    refine ⟨?_, hu⟩
    have hhops : ∀ hop ∈ b.hops ++ [x.hop], AnsweredHop options hop := by
      apply List.forall_mem_append.mpr ⟨hb, _⟩
      intro hop hhop
      rw [List.mem_singleton.mp hhop]
      exact hx.hop
    change Sum.elim _ _ (afterHop options i b proxy address x)
    unfold afterHop
    dsimp only
    rcases herror : x.redirectError with _ | error
    · rcases x.nextUrl with _ | next
      · exact ⟨hhops, nofun⟩
      · dsimp only
        split_ifs
        · exact ⟨hhops, fun _ hlimit => Option.mem_some.mp hlimit ▸ by decide⟩
        · exact hhops
    · exact ⟨hhops, fun _ hlast => Option.mem_some.mp hlast ▸ hx.error error herror⟩

theorem runHttp_modest (url : Url) (proxy : ResolvedProxy) (address : SocketAddr)
    (options : InspectionOptions) :
    Modest (runHttp url proxy address options : Live env _) (BriefChain options) := by
  intro s hs
  apply Prog.Triple.loop
    (fun _ b t => (∀ hop ∈ b.hops, AnsweredHop options hop) ∧ BriefProbes t)
    (options.maxRedirects.toNat + 1) ?_ ?_ _ 0 _ (Nat.zero_add _)
  · exact ⟨nofun, hs⟩
  · intro i b _ t ht
    apply (hopRound_modest options i b ht.1 t ht.2).mono
    · rintro (b' | result) _ hr
      · exact hr
      · exact hr
    · exact fun _ _ he => he
  · exact fun b t ht => ⟨⟨ht.1, nofun⟩, ht.2⟩

end

end HopWhy
