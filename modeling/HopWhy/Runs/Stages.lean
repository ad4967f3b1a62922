import HopWhy.Runs.Effect

/-!
# Effects of the live stages

For each stage, the effects it can have beside the results they come with. The
clock decides between them; only for the TLS stage is the condition kept, since
its handshake is the one call that can end without a record.
-/

namespace HopWhy

variable {env : Environment}

/-- The first occurrences are those of all addresses. -/
theorem mem_unseen {a : SocketAddr} {seen answer : List SocketAddr} :
    a ∈ unseen seen answer ↔ a ∈ answer ∧ a ∉ seen := by
  induction answer generalizing seen with
  | nil => simp [unseen]
  | cons b answer ih =>
    by_cases hab : a = b
    · subst hab
      rw [unseen]
      split_ifs with ha
      · simp [ih, ha]
      · simp [ha]
    · rw [unseen]
      split_ifs with hb
      · simp [ih, hab]
      · simp [ih, hab]

theorem mem_arrange {a : SocketAddr} {answer : List SocketAddr} :
    a ∈ arrange answer ↔ a ∈ answer := by
  rw [arrange, List.mem_insertionSort, mem_unseen]
  simp

theorem arrange_eq_nil {answer : List SocketAddr} : arrange answer = [] ↔ answer = [] := by
  simp only [List.eq_nil_iff_forall_not_mem, mem_arrange]

theorem nodup_unseen (seen answer : List SocketAddr) : (unseen seen answer).Nodup := by
  induction answer generalizing seen with
  | nil => simp [unseen]
  | cons b answer ih =>
    rw [unseen]
    split_ifs with hb
    · exact ih seen
    · exact List.nodup_cons.mpr ⟨by simp [mem_unseen], ih (b :: seen)⟩

/-- The result of a lookup. -/
def resolutionOf (options : InspectionOptions) :
    Option (List SocketAddr) → AppResult (List SocketAddr × List SocketAddr)
  | none => .error dnsResolutionFailed
  | some answer =>
    if arrange answer = [] then .error dnsEmptyAnswer
    else .ok (arrange answer, permittedOf options (arrange answer))

inductive LookupEffect (options : InspectionOptions) (destination : String) :
    Effect → AppResult (List SocketAddr × List SocketAddr) → Prop
  | refused : LookupEffect options destination .none (.error budgetExhausted)
  | asked (answer : Option (List SocketAddr)) (record : ProbeRecord)
      (kind : record.kind = .dnsLookup) (asks : record.destination = destination)
      (literal : ∀ address, SocketAddr.parse destination = some address →
        answer = some [address]) :
      LookupEffect options destination (.probed [.lookup destination answer] record)
        (resolutionOf options answer)

def destinationOf (proxy : ResolvedProxy) : String :=
  socketDestination proxy.connectHost proxy.connectPort

/-- A literal destination answers itself. -/
theorem answerTo_literal {destination : String} (n : ℕ) : ∀ address,
    SocketAddr.parse destination = some address →
      answerTo env destination n = some [address] := by
  intro address h
  rw [answerTo, h]

/-- What is left of a resolution when the answer is there. -/
theorem resolved_apply (options : InspectionOptions) (answer : List SocketAddr)
    (s : Session (World env)) :
    (if arrange answer = [] then Prog.fail dnsEmptyAnswer
      else pure (arrange answer, permittedOf options (arrange answer)) :
        Live env (List SocketAddr × List SocketAddr)) s =
      (resolutionOf options (some answer), s) := by
  rw [Prog.ite_apply, resolutionOf]
  split_ifs <;> rfl

/-- A resolution in this session makes its lookup, and this is the answer. The lookup comes
after three readings of the clock. -/
def Answers (proxy : ResolvedProxy) (s : Session (World env)) (answer : List SocketAddr) : Prop :=
  Openable s ∧ answerTo env (destinationOf proxy) (s.world.step + 3) = some answer

/-- The result of a resolution is that of its lookup. -/
theorem resolveAddresses_answered (proxy : ResolvedProxy) (options : InspectionOptions)
    {s : Session (World env)} (h : Openable s) :
    (resolveAddresses proxy options s).1 =
      resolutionOf options (answerTo env (destinationOf proxy) (s.world.step + 3)) := by
  unfold resolveAddresses
  dsimp only
  rw [← destinationOf]
  rcases startProbe_cases .dnsLookup (destinationOf proxy) s with
    ⟨-, -, probe, hprobe, -⟩ | ⟨hclosed, -⟩
  · rw [Prog.bind_ok hprobe]
    simp only [instant_bind, toSocketAddrs, interact_bind, step_tick]
    rcases answerTo env (destinationOf proxy) (s.world.step + 3) with _ | answer
    · rfl
    · simp only [finishProbe_bind, resolved_apply]
  · exact absurd h hclosed

theorem resolveAddresses_closed (proxy : ResolvedProxy) (options : InspectionOptions)
    {s : Session (World env)} (h : ¬ Openable s) :
    (resolveAddresses proxy options s).1 = .error budgetExhausted := by
  unfold resolveAddresses
  dsimp only
  rw [← destinationOf]
  rcases startProbe_cases .dnsLookup (destinationOf proxy) s with
    ⟨htime, hslot, -⟩ | ⟨-, hprobe⟩
  · exact absurd ⟨htime, hslot⟩ h
  · rw [Prog.bind_error hprobe]

/-- A resolution needs time and a slot; then its result is that of the lookup. -/
theorem resolveAddresses_result (proxy : ResolvedProxy) (options : InspectionOptions)
    (s : Session (World env)) :
    (Openable s ∧ ∃ n, (resolveAddresses proxy options s).1 =
      resolutionOf options (answerTo env (destinationOf proxy) n)) ∨
    (¬ Openable s ∧ (resolveAddresses proxy options s).1 = .error budgetExhausted) := by
  by_cases h : Openable s
  · exact Or.inl ⟨h, _, resolveAddresses_answered proxy options h⟩
  · exact Or.inr ⟨h, resolveAddresses_closed proxy options h⟩

theorem resolveAddresses_effect (proxy : ResolvedProxy) (options : InspectionOptions)
    (s : Session (World env)) :
    ∃ e, Leads s e (resolveAddresses proxy options s).2 ∧
      LookupEffect options (destinationOf proxy) e (resolveAddresses proxy options s).1 := by
  unfold resolveAddresses
  dsimp only
  rw [← destinationOf]
  rcases startProbe_cases .dnsLookup (destinationOf proxy) s with
    ⟨-, -, probe, hprobe, hopened⟩ | ⟨-, hprobe⟩
  · rw [Prog.bind_ok hprobe]
    simp only [instant_bind, toSocketAddrs, interact_bind]
    -- The call comes after three readings of the clock.
    have hcall := (((leads_tick s).trans (leads_tick _)).trans (leads_tick _)).trans
      (leads_interact s.tick.tick.tick (i := .lookup (destinationOf proxy)
        (answerTo env (destinationOf proxy) s.tick.tick.tick.world.step)) (by simp))
    simp only [Effect.none_append] at hcall
    have hclose := fun outcome durationMs =>
      hcall.trans (leads_close (hopened.along hcall rfl) outcome durationMs)
    simp only [Effect.ofCalls_append_ofProbe] at hclose
    rcases hanswer : answerTo env (destinationOf proxy) s.tick.tick.tick.world.step with
      _ | answer
    · rw [hanswer] at hclose
      exact ⟨_, hclose "failed" _, .asked none _ hopened.kind hopened.destination
        (hanswer ▸ answerTo_literal _)⟩
    · rw [hanswer] at hclose
      simp only [finishProbe_bind, resolved_apply]
      exact ⟨_, hclose "resolved" _, .asked _ _ hopened.kind hopened.destination
        (hanswer ▸ answerTo_literal _)⟩
  · rw [Prog.bind_error hprobe]
    exact ⟨_, leads_tick s, .refused⟩

theorem handshakeRound_cases (probe : ActiveProbe) (started timeout : ℕ)
    (s : Session (World env)) :
    (env.time s.world.step < s.tracker.deadline ∧
      handshakeRound probe started timeout s = (.ok (), s.tick.interact (.tlsRound timeout))) ∨
    (s.tracker.deadline ≤ env.time s.world.step ∧
      handshakeRound probe started timeout s = (.error budgetExhausted, s.tick)) := by
  unfold handshakeRound
  rcases remaining_cases s with ⟨htime, hleft⟩ | ⟨htime, hleft⟩
  · -- A remaining time is never zero, so the test of it is always passed.
    rw [Prog.bind_ok hleft, if_neg (by omega)]
    exact Or.inl ⟨htime, rfl⟩
  · rw [Prog.bind_error hleft]
    exact Or.inr ⟨htime, rfl⟩

/-- How a handshake loop ends when all its rounds are made. -/
def concludeHandshake (probe : ActiveProbe) (started : ℕ) (outcome : Option TlsSession) :
    Live env TlsSession :=
  match outcome with
  | some session => pure session
  | none => do
    Tracker.finishProbe probe started "handshake_failed"
    Prog.fail tlsHandshakeFailed

theorem leads_tlsRound (timeout : ℕ) (s : Session (World env)) :
    Leads s (.ofCalls [.tlsRound timeout]) (s.tick.interact (.tlsRound timeout)) := by
  have h := (leads_tick s).trans (leads_interact s.tick (i := .tlsRound timeout) (by simp))
  rwa [Effect.none_append] at h

/-- The clock never goes back, so the last check decides the loop. -/
theorem completeHandshake_cases (probe : ActiveProbe) (started timeout : ℕ)
    (outcome : Option TlsSession) (rounds : ℕ) (s : Session (World env)) :
    (env.time (s.world.step + 2 * rounds) < s.tracker.deadline ∧ ∃ n t,
      completeHandshake probe started timeout outcome rounds s =
        concludeHandshake probe started outcome t ∧
      Leads s (.ofCalls (List.replicate n (.tlsRound timeout))) t) ∨
    (s.tracker.deadline ≤ env.time (s.world.step + 2 * rounds) ∧ ∃ n t,
      completeHandshake probe started timeout outcome rounds s = (.error budgetExhausted, t) ∧
      Leads s (.ofCalls (List.replicate n (.tlsRound timeout))) t) := by
  induction rounds generalizing s with
  | zero =>
    unfold completeHandshake
    rcases handshakeRound_cases probe started timeout s with ⟨htime, hround⟩ | ⟨htime, hround⟩
    · rw [Prog.bind_ok hround]
      exact Or.inl ⟨htime, 1, _, rfl, leads_tlsRound timeout s⟩
    · rw [Prog.bind_error hround]
      exact Or.inr ⟨htime, 0, _, rfl, leads_tick s⟩
  | succ rounds ih =>
    unfold completeHandshake
    rcases handshakeRound_cases probe started timeout s with ⟨htime, hround⟩ | ⟨htime, hround⟩
    · rw [Prog.bind_ok hround]
      have hstep : (s.tick.interact (.tlsRound timeout)).world.step + 2 * rounds =
          s.world.step + 2 * (rounds + 1) := by
        rw [step_interact, step_tick]
        omega
      rcases ih (s.tick.interact (.tlsRound timeout)) with
        ⟨hlast, n, t, heq, hleads⟩ | ⟨hlast, n, t, heq, hleads⟩
      · rw [hstep] at hlast
        exact Or.inl ⟨hlast, n + 1, t, heq, (leads_tlsRound timeout s).trans hleads⟩
      · rw [hstep] at hlast
        exact Or.inr ⟨hlast, n + 1, t, heq, (leads_tlsRound timeout s).trans hleads⟩
    · rw [Prog.bind_error hround]
      refine Or.inr ⟨htime.trans (env.time_mono (by omega)), 0, _, rfl, leads_tick s⟩

variable [Crates]

/-- The attempts in list order, until one connects or the budget is spent. -/
inductive ConnectEffect (options : InspectionOptions) :
    List SocketAddr → Effect → AppResult SocketAddr → Prop
  | exhausted : ConnectEffect options [] .none (.error tcpConnectFailed)
  | refused (address : SocketAddr) (rest : List SocketAddr) :
      ConnectEffect options (address :: rest) .none (.error budgetExhausted)
  | connected (address : SocketAddr) (rest : List SocketAddr) (timeout : ℕ)
      (record : ProbeRecord) (kind : record.kind = .tcpConnect)
      (names : record.destination = addressForReport address options.showAddresses) :
      ConnectEffect options (address :: rest)
        (.probed [.connect address timeout true] record) (.ok address)
  | failed (address : SocketAddr) (rest : List SocketAddr) (timeout : ℕ)
      (record : ProbeRecord) (kind : record.kind = .tcpConnect)
      (names : record.destination = addressForReport address options.showAddresses)
      {e : Effect} {r : AppResult SocketAddr} (later : ConnectEffect options rest e r) :
      ConnectEffect options (address :: rest)
        (.probed [.connect address timeout false] record ++ e) r

/-- The outcome that is recorded for a connection attempt. -/
def connectOutcome (connected : Bool) : String := if connected then "connected" else "failed"

/-- One attempt: no call, or a recorded call whose outcome decides. -/
theorem connectOne_cases (options : InspectionOptions) (address : SocketAddr)
    (s : Session (World env)) :
    (Leads s .none (connectOne options address s).2 ∧
      (connectOne options address s).1 = .error budgetExhausted) ∨
    ∃ timeout connected record, record.kind = .tcpConnect ∧
      record.destination = addressForReport address options.showAddresses ∧
      record.outcome = connectOutcome connected ∧
      Leads s (.probed [.connect address timeout connected] record)
        (connectOne options address s).2 ∧
      (connectOne options address s).1 =
        .ok (if connected then some address else none) := by
  unfold connectOne
  rcases startProbe_cases .tcpConnect (addressForReport address options.showAddresses) s with
    ⟨-, -, probe, hprobe, hopened⟩ | ⟨-, hprobe⟩
  · rw [Prog.bind_ok hprobe, instant_bind]
    rcases remaining_cases s.tick.tick.tick with ⟨-, hleft⟩ | ⟨-, hleft⟩
    · rw [Prog.bind_ok hleft]
      simp only [connectTimeout, interact_bind]
      generalize min _ (seconds 5) = timeout
      generalize env.accepts _ = connected
      have hcall := ((((leads_tick s).trans (leads_tick _)).trans (leads_tick _)).trans
        (leads_tick _)).trans (leads_interact s.tick.tick.tick.tick
          (i := .connect address timeout connected) (by simp))
      simp only [Effect.none_append] at hcall
      have hclose := fun outcome durationMs =>
        hcall.trans (leads_close (hopened.along hcall rfl) outcome durationMs)
      simp only [Effect.ofCalls_append_ofProbe] at hclose
      refine Or.inr ⟨timeout, connected, ?_⟩
      rcases connected with _ | _
      · exact ⟨_, hopened.kind, hopened.destination, rfl, hclose "failed" _, rfl⟩
      · exact ⟨_, hopened.kind, hopened.destination, rfl, hclose "connected" _, rfl⟩
    · rw [Prog.bind_error hleft]
      have htick := (((leads_tick s).trans (leads_tick _)).trans (leads_tick _)).trans
        (leads_tick s.tick.tick.tick)
      exact Or.inl ⟨htick, rfl⟩
  · rw [Prog.bind_error hprobe]
    exact Or.inl ⟨leads_tick s, rfl⟩

theorem connectFirst_effect (addresses : List SocketAddr) (options : InspectionOptions)
    (s : Session (World env)) :
    ∃ e, Leads s e (connectFirst addresses options s).2 ∧
      ConnectEffect options (addresses.take options.maxAddresses.toNat) e
        (connectFirst addresses options s).1 := by
  unfold connectFirst
  generalize addresses.take options.maxAddresses.toNat = attempts
  induction attempts generalizing s with
  | nil => exact ⟨.none, Leads.refl s, .exhausted⟩
  | cons address rest ih =>
    rw [Prog.firstOf]
    rcases connectOne_cases options address s with
      ⟨hleads, herr⟩ | ⟨timeout, connected, record, hkind, hnames, -, hleads, hok⟩
    · rw [Prog.bind_error (Prod.ext herr rfl)]
      exact ⟨.none, hleads, .refused address rest⟩
    · rw [Prog.bind_ok (Prod.ext hok rfl)]
      rcases connected with _ | _
      · obtain ⟨e, hlater, heffect⟩ := ih (connectOne options address s).2
        exact ⟨_, hleads.trans hlater, .failed address rest timeout record hkind hnames heffect⟩
      · exact ⟨_, hleads, .connected address rest timeout record hkind hnames⟩

/-- The clock passes the deadline at one of the checks of the handshake loop,
after the transport is connected and the client initialized. -/
structure HandshakeCut (env : Environment) (serverHost : String) (s : Session (World env)) :
    Prop where
  slot : SlotFree s
  inTime : env.time (s.world.step + 3) < s.tracker.deadline
  accepted : env.accepts (s.world.step + 4) = true
  named : Crates.serverName serverHost = true
  initialized : env.tlsClient serverHost = true
  late : s.tracker.deadline ≤
    env.time (s.world.step + 5 + 2 * (env.handshake (s.world.step + 4)).rounds)

/-- A handshake is recorded unless the deadline cuts it. -/
inductive TlsEffect (cut : Prop) (address : SocketAddr) (showAddresses : Bool) :
    Effect → AppResult TlsSummary → Prop
  | refused (uncut : ¬ cut) :
      TlsEffect cut address showAddresses .none (.error budgetExhausted)
  | attempted (uncut : ¬ cut) (timeout : ℕ) (connected : Bool) (rounds : ℕ)
      (record : ProbeRecord) (kind : record.kind = .tlsHandshake)
      (names : record.destination = addressForReport address showAddresses)
      (r : AppResult TlsSummary) :
      TlsEffect cut address showAddresses
        (.probed (.tlsConnect address timeout connected ::
          List.replicate rounds (.tlsRound timeout)) record) r
  | abandoned (iscut : cut) (timeout rounds : ℕ) :
      TlsEffect cut address showAddresses
        (.ofCalls (.tlsConnect address timeout true ::
          List.replicate rounds (.tlsRound timeout))) (.error budgetExhausted)

/-- After the connection attempt: the rounds that were made, and a record unless
the deadline cut them. -/
theorem negotiateTls_cases {u : Session (World env)} {destination : String} {probe : ActiveProbe}
    (hopened : Opened u .tlsHandshake destination probe) (started timeout : ℕ)
    (serverHost : String) (connected : Bool) (handshake : Handshake) :
    (¬ (connected = true ∧ Crates.serverName serverHost = true ∧
        env.tlsClient serverHost = true ∧
        u.tracker.deadline ≤ env.time (u.world.step + 2 * handshake.rounds)) ∧
      ∃ rounds record, record.kind = .tlsHandshake ∧ record.destination = destination ∧
        Leads u (.probed (List.replicate rounds (.tlsRound timeout)) record)
          (negotiateTls probe started timeout serverHost connected handshake u).2) ∨
    (connected = true ∧ Crates.serverName serverHost = true ∧ env.tlsClient serverHost = true ∧
      u.tracker.deadline ≤ env.time (u.world.step + 2 * handshake.rounds) ∧
      ∃ rounds t, negotiateTls probe started timeout serverHost connected handshake u =
          (.error budgetExhausted, t) ∧
        Leads u (.ofCalls (List.replicate rounds (.tlsRound timeout))) t) := by
  have hclose : ∀ {rounds t}, Leads u (.ofCalls (List.replicate rounds (.tlsRound timeout))) t →
      ∀ outcome durationMs, Leads u (.probed (List.replicate rounds (.tlsRound timeout))
        (recordOf probe outcome durationMs))
        (t.tick.close (recordOf probe outcome durationMs)) := by
    intro rounds t hrounds outcome durationMs
    have h := hrounds.trans (leads_close (hopened.along hrounds rfl) outcome durationMs)
    rwa [Effect.ofCalls_append_ofProbe] at h
  have hnone : Leads u (.ofCalls (List.replicate 0 (.tlsRound timeout))) u := Leads.refl u
  unfold negotiateTls
  rcases connected with _ | _
  · exact Or.inl ⟨by simp, 0, _, hopened.kind, hopened.destination, hclose hnone "tcp_failed" _⟩
  rcases hnamed : Crates.serverName serverHost with _ | _
  · exact Or.inl ⟨by simp, 0, _, hopened.kind, hopened.destination,
      hclose hnone "invalid_server_name" _⟩
  rcases hclient : env.tlsClient serverHost with _ | _
  · exact Or.inl ⟨by simp, 0, _, hopened.kind, hopened.destination,
      hclose hnone "configuration_failed" _⟩
  simp only [Bool.not_true, Bool.false_eq_true, if_false]
  rcases completeHandshake_cases probe started timeout handshake.outcome handshake.rounds u with
    ⟨hlast, n, t, heq, hleads⟩ | ⟨hlast, n, t, heq, hleads⟩
  · rw [Prog.bind_apply, heq]
    refine Or.inl ⟨fun h => absurd h.2.2.2 (Nat.not_le.mpr hlast), n, ?_⟩
    rcases handshake.outcome with _ | session
    · exact ⟨_, hopened.kind, hopened.destination, hclose hleads "handshake_failed" _⟩
    · exact ⟨_, hopened.kind, hopened.destination, hclose hleads "validated" _⟩
  · rw [Prog.bind_error heq]
    exact Or.inr ⟨trivial, trivial, trivial, hlast, n, t, rfl, hleads⟩

theorem probeTls_effect (address : SocketAddr) (serverHost : String) (showAddresses : Bool)
    (s : Session (World env)) :
    ∃ e, Leads s e (probeTls address serverHost showAddresses s).2 ∧
      TlsEffect (HandshakeCut env serverHost s) address showAddresses e
        (probeTls address serverHost showAddresses s).1 := by
  unfold probeTls
  rcases startProbe_cases .tlsHandshake (addressForReport address showAddresses) s with
    ⟨-, hslot, probe, hprobe, hopened⟩ | ⟨hno, hprobe⟩
  · rw [Prog.bind_ok hprobe, instant_bind]
    have hticks := ((leads_tick s).trans (leads_tick _)).trans (leads_tick s.tick.tick)
    have hthree : s.tick.tick.tick.world.step = s.world.step + 3 := by simp
    rcases remaining_cases s.tick.tick.tick with ⟨htime, hleft⟩ | ⟨htime, hleft⟩
    · rw [Prog.bind_ok hleft]
      simp only [tlsConnect, interact_bind]
      generalize min _ (seconds 7) = timeout
      rw [hthree] at htime
      have hfour : s.tick.tick.tick.tick.world.step = s.world.step + 4 := by simp
      rw [hfour]
      set connected := env.accepts (s.world.step + 4) with hconnected
      set u := s.tick.tick.tick.tick.interact (.tlsConnect address timeout connected) with hu
      have hfive : u.world.step = s.world.step + 5 := by simp [hu]
      have hcall : Leads s (.ofCalls [.tlsConnect address timeout connected]) u := by
        have h := (hticks.trans (leads_tick _)).trans (leads_interact s.tick.tick.tick.tick
          (i := .tlsConnect address timeout connected) (by simp))
        simpa only [Effect.none_append] using h
      rcases negotiateTls_cases (hopened.along hcall rfl)
          s.tick.tick.reading timeout serverHost connected
          (env.handshake (s.world.step + 4)) with
        ⟨huncut, rounds, record, hkind, hnames, hleads⟩ |
        ⟨hacc, hnamed, hclient, hlate, rounds, t, heq, hleads⟩
      · refine ⟨_, hcall.trans hleads, .attempted (fun hcut => huncut ⟨?_, hcut.named,
          hcut.initialized, ?_⟩) timeout connected rounds record hkind hnames _⟩
        · exact hcut.accepted
        · rw [hfive]
          exact hcut.late
      · rw [heq]
        rw [hfive] at hlate
        refine ⟨_, hcall.trans hleads, ?_⟩
        rw [hacc]
        exact .abandoned ⟨hslot, htime, hacc, hnamed, hclient, hlate⟩ timeout rounds
    · rw [Prog.bind_error hleft]
      refine ⟨_, hticks.trans (leads_tick _), .refused fun hcut => ?_⟩
      rw [hthree] at htime
      exact absurd hcut.inTime (Nat.not_lt.mpr htime)
  · rw [Prog.bind_error hprobe]
    refine ⟨_, leads_tick s, .refused fun hcut => hno ⟨?_, hcut.slot⟩⟩
    exact (env.time_mono (by omega)).trans_lt hcut.inTime

end HopWhy
